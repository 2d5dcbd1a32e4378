import Toasts.Proofs.Partings
import Toasts.Proofs.Served

/-!
Removals. A record on its way out is to be removed: first a frame of its dismissal is there for that,
then a piece of work on the agenda. A stride puts one removal under way, for the record that begins
its exit, or carries one out, or leaves them as they are; only the passing of time moves their ends.
-/

namespace Toasts

/-- A removal under way: of which edition under which identity, and the earliest moment for it. -/
structure Removal where
  id : ToastId
  edition : Nat
  ending : Nat

def Removal.exit (removal : Removal) : ToastId × Nat := (removal.id, removal.edition)

def Toast.removal (toast : Toast) (ending : Nat) : Removal := ⟨toast.id, toast.edition, ending⟩

def Deed.removalAt? (deed : Deed) (ending : Nat) : Option Removal :=
  match deed with
  | .remove id edition => some ⟨id, edition, ending⟩
  | _ => none

def Agenda.removals (agenda : Agenda Deed) : List Removal :=
  agenda.endings.filterMap fun ending => ending.1.removalAt? ending.2

namespace Agenda

variable {agenda after : Agenda Deed}

theorem removals_spawn (agenda : Agenda Deed) (delay : Span) (deed : Deed) :
    (agenda.spawn delay deed).removals.Perm
      ((deed.removalAt? (agenda.deadline delay)).toList ++ agenda.removals) := by
  have spawned := (endings_spawn agenda delay deed).filterMap fun ending =>
    ending.1.removalAt? ending.2
  refine spawned.trans ?_
  rw [List.filterMap_cons]
  cases deed.removalAt? (agenda.deadline delay) <;> exact List.Perm.refl _

theorem removals_keepVigils (vigils : List (Vigil ToastId)) (agenda : Agenda Deed) :
    (Engine.keepVigils agenda vigils).removals.Perm agenda.removals := by
  induction vigils generalizing agenda with
  | nil => exact List.Perm.refl _
  | cons vigil rest ih =>
      have spawned := removals_spawn agenda vigil.delay (.expire vigil.key vigil.generation)
      exact (ih _).trans spawned

theorem TakesUp.removals {outcome : Option Deed} (taken : agenda.TakesUp after outcome) :
    agenda.removals.Perm
      ((outcome.bind (·.removalAt? agenda.now)).toList ++ after.removals) := by
  have both := taken.endings.filterMap fun ending => ending.1.removalAt? ending.2
  refine both.trans ?_
  cases outcome with
  | none => exact List.Perm.refl _
  | some deed =>
      simp only [Option.toList_some, List.map_cons, List.map_nil, List.singleton_append,
        List.filterMap_cons, Option.bind_some]
      cases deed.removalAt? agenda.now <;> exact List.Perm.refl _

theorem removalAt?_ending {deed : Deed} {ending : Nat} {removal : Removal} (earlier : Nat)
    (removes : deed.removalAt? ending = some removal) :
    removal.ending = ending ∧ deed.removalAt? earlier = some { removal with ending := earlier } := by
  cases deed with
  | remove id edition =>
      obtain rfl := Option.some.inj removes
      exact ⟨rfl, rfl⟩
  | expire id generation => cases removes
  | errand ticket => cases removes

theorem mem_works_of_removals {removal : Removal} (member : removal ∈ agenda.removals) :
    .remove removal.id removal.edition ∈ agenda.works := by
  obtain ⟨⟨deed, ending⟩, present, made⟩ := List.mem_filterMap.mp member
  rw [works_eq]
  cases deed with
  | remove id edition =>
      obtain rfl := Option.some.inj made
      exact List.mem_map_of_mem present
  | expire id generation => cases made
  | errand ticket => cases made

theorem removals_advance {moment : Nat} {removal : Removal} (forward : agenda.now ≤ moment)
    (member : removal ∈ (agenda.advance moment).removals) :
    ∃ earlier, { removal with ending := earlier } ∈ agenda.removals ∧ earlier ≤ removal.ending ∧
      (agenda.AllBegun → removal.ending = max earlier moment) := by
  obtain ⟨⟨deed, later⟩, present, removes⟩ := List.mem_filterMap.mp member
  obtain ⟨earlier, before, less, begun⟩ := endings_advance forward present
  obtain ⟨rfl, same⟩ := removalAt?_ending earlier removes
  exact ⟨earlier, List.mem_filterMap.mpr ⟨_, before, same⟩, less, begun⟩

end Agenda

namespace Engine

variable {engine after : Engine} {event : Event}

def windowEnd (engine : Engine) : Nat := engine.agenda.deadline engine.settings.exitWindow

/-- All removals under way. The windows of those that are still on the stack are yet to begin. -/
def removals (engine : Engine) : List Removal :=
  (engine.frames.filterMap Frame.parting?).map (·.removal engine.windowEnd) ++
    engine.agenda.removals

theorem removals_exits (engine : Engine) : engine.removals.map Removal.exit = engine.exits := by
  have same : (fun ending : Deed × Nat => (ending.1.removalAt? ending.2).map Removal.exit) =
      fun ending => ending.1.removal? := by
    funext ending
    cases ending.1 <;> rfl
  have listed : engine.agenda.removals.map Removal.exit =
      engine.agenda.works.filterMap Deed.removal? := by
    rw [Agenda.removals, List.map_filterMap, same, Agenda.works_eq, List.filterMap_map]
    rfl
  rw [removals, List.map_append, List.map_map, listed]
  rfl

theorem AtRest.removals (rest : engine.AtRest) : engine.removals = engine.agenda.removals := by
  have none : engine.frames.filterMap Frame.parting? = [] := by
    apply List.filterMap_eq_nil_iff.mpr
    intro frame member
    have outside := rest frame member
    cases frame <;> first | rfl | cases outside
  rw [Engine.removals, none]
  rfl

theorem windowEnd_congr (settings : after.settings = engine.settings)
    (now : after.now = engine.now) : after.windowEnd = engine.windowEnd := by
  have same : after.agenda.now = engine.agenda.now := now
  rw [windowEnd, Agenda.deadline, same, settings, windowEnd, Agenda.deadline]

theorem removals_perm (added : List Removal)
    (frames : after.frames.filterMap Frame.parting? = engine.frames.filterMap Frame.parting?)
    (settings : after.settings = engine.settings) (now : after.now = engine.now)
    (agenda : after.agenda.removals.Perm (added ++ engine.agenda.removals)) :
    after.removals.Perm (added ++ engine.removals) := by
  rw [removals, frames, windowEnd_congr settings now, removals]
  refine (agenda.append_left _).trans ?_
  exact List.perm_append_comm_assoc _ _ _

theorem Publishes.removals {toasts : List Toast} {rest : List Frame}
    (publishes : Publishes engine after toasts rest) :
    after.removals = (rest.filterMap Frame.parting?).map (·.removal engine.windowEnd) ++
      engine.agenda.removals := by
  have same := windowEnd_congr publishes.settings publishes.now
  rw [Engine.removals, publishes.frames, publishes.agenda, same]
  rfl

theorem Leaves.removals {toast : Toast} {cause : Cause} (leaves : Leaves engine after toast cause) :
    after.removals = toast.removal engine.windowEnd :: engine.removals := by
  rw [leaves.publishes.removals]
  rfl

theorem Effect.removals (effect : Effect engine after) :
    after.removals.Perm engine.removals ∨ ∃ toast, Leaves engine after toast .user := by
  cases effect with
  | calm pushed outside steady toasts version countdowns agenda frames =>
      have idle : pushed.filterMap Frame.parting? = [] := by
        apply List.filterMap_eq_nil_iff.mpr
        intro frame member
        have out := outside frame member
        cases frame <;> first | rfl | cases out
      have partings : after.frames.filterMap Frame.parting? =
          engine.frames.filterMap Frame.parting? := by
        rw [frames, List.filterMap_append, idle, List.nil_append]
      have now : after.now = engine.now := by
        rcases agenda with same | ⟨delay, ticket, same⟩ <;> rw [Engine.now, same] <;> rfl
      refine .inl (removals_perm [] partings steady.settings now ?_)
      rcases agenda with same | ⟨delay, ticket, same⟩
      · rw [same]
        exact List.Perm.refl _
      · rw [same]
        exact Agenda.removals_spawn engine.agenda delay (.errand ticket)
  | shows shows =>
      cases shows with
      | revise toast revised options number found live made new publishes =>
          exact .inl (List.Perm.of_eq publishes.removals)
      | append toast options number made new publishes =>
          exact .inl (List.Perm.of_eq publishes.removals)
  | leaves toast leaves => exact .inr ⟨toast, leaves⟩
  | clears position publishes => exact .inl (List.Perm.of_eq publishes.removals)
  | spares position spared same =>
      subst same
      exact .inl (List.Perm.refl _)
  | paints toast painted found made publishes =>
      exact .inl (List.Perm.of_eq publishes.removals)
  | pauses same =>
      subst same
      exact .inl (List.Perm.refl _)
  | resumes same =>
      subst same
      have kept := Agenda.removals_keepVigils (engine.countdowns.resume engine.now).vigils
        engine.agenda
      exact .inl (removals_perm [] rfl rfl (keepVigils_now _ _) kept)

theorem arm_removals (engine : Engine) (id : ToastId) (lifespan : Lifespan) :
    (engine.arm id lifespan).removals.Perm engine.removals := by
  refine removals_perm [] ?_ ?_ (arm_now engine id lifespan) ?_
  · obtain ⟨countdowns, agenda, shape⟩ := arm_shape engine id lifespan
    rw [shape]
  · obtain ⟨countdowns, agenda, shape⟩ := arm_shape engine id lifespan
    rw [shape]
  · simp only [arm]
    split
    next => exact List.Perm.refl _
    next delay _ => exact Agenda.removals_keepVigils _ engine.agenda

inductive Passage (engine : Engine) (event : Event) (after : Engine) : Prop where
  | keeps (quiet : Quiet engine after) (removals : after.removals.Perm engine.removals)
      (now : after.now = engine.now)
  | opens (before : Engine) (toast : Toast) (cause : Cause)
      (leaves : Leaves before after toast cause) (store : before.store = engine.store)
      (numbers : before.numbers = engine.numbers)
      (removals : after.removals.Perm (toast.removal engine.windowEnd :: engine.removals))
      (now : after.now = engine.now)
  /-- The removal of an edition goes, and the record with it if there still is one. -/
  | closes (id : ToastId) (edition : Nat)
      (removals : engine.removals.Perm (⟨id, edition, engine.now⟩ :: after.removals))
      (toasts : after.store.toasts = engine.store.toasts.filter fun toast =>
        !(decide (toast.id = id) && toast.edition == edition)) (now : after.now = engine.now)
  | elapses (moment : Nat) (passes : event = .pass moment) (idle : engine.frames = [])
      (later : engine.now ≤ moment) (same : after = engine.advance moment)

theorem removals_idle (idle : engine.frames = []) : engine.removals = engine.agenda.removals := by
  rw [removals, idle]
  rfl

theorem removals_takesUp (after : Engine) {agenda : Agenda Deed} {outcome : Option Deed}
    (idle : engine.frames = []) (taken : engine.agenda.TakesUp agenda outcome)
    (partings : after.frames.filterMap Frame.parting? = []) (same : after.agenda = agenda) :
    engine.removals.Perm
      ((outcome.bind (·.removalAt? engine.now)).toList ++ after.removals) := by
  rw [removals_idle idle, removals, partings, same]
  exact taken.removals

theorem Passage.of_leaves {before : Engine} {toast : Toast} {cause : Cause}
    (leaves : Leaves before after toast cause) (store : before.store = engine.store)
    (numbers : before.numbers = engine.numbers) (settings : before.settings = engine.settings)
    (now : before.now = engine.now) (removals : before.removals.Perm engine.removals) :
    Passage engine event after := by
  refine .opens before toast cause leaves store numbers ?_ (leaves.publishes.now.trans now)
  rw [leaves.removals, windowEnd_congr settings now]
  exact removals.cons _

theorem Move.passage (move : Move engine event after) (orderly : Orderly engine) :
    Passage engine event after := by
  -- Most strides leave the records, the exits on the stack and the agenda as they are.
  have beside {later : Engine} (toasts : later.store.toasts = engine.store.toasts)
      (frames : later.frames.filterMap Frame.parting? = engine.frames.filterMap Frame.parting?)
      (settings : later.settings = engine.settings) (agenda : later.agenda = engine.agenda) :
      Passage engine event later := by
    refine .keeps (quiet_of_toasts toasts) (removals_perm [] frames settings ?_ ?_) ?_
    · rw [Engine.now, agenda, Engine.now]
    · rw [agenda]
      exact List.Perm.refl _
    · rw [Engine.now, agenda, Engine.now]
  -- A wait that is not for a removal is taken up.
  have foreign {agenda : Agenda Deed} {outcome : Option Deed} {later : Engine}
      (idle : engine.frames = []) (taken : engine.agenda.TakesUp agenda outcome)
      (kind : ∀ deed, outcome = some deed → deed.removal? = none)
      (toasts : later.store.toasts = engine.store.toasts)
      (frames : later.frames.filterMap Frame.parting? = []) (same : later.agenda = agenda) :
      Passage engine event later := by
    have removals := removals_takesUp later idle taken frames same
    refine .keeps (quiet_of_toasts toasts) ?_ (by rw [Engine.now, same, taken.now, Engine.now])
    have none : outcome.bind (·.removalAt? engine.now) = none := by
      cases outcome with
      | none => rfl
      | some deed =>
          have other := kind deed rfl
          cases deed <;> first | rfl | cases other
    rw [none] at removals
    exact removals.symm
  cases move with
  | request operation after answer turn effect =>
      rcases effect.removals with removals | ⟨toast, leaves⟩
      · rcases effect.parts (orderly.answering answer) with ⟨quiet, _⟩ | ⟨toast, leaves⟩
        · exact .keeps quiet removals effect.now
        · exact .of_leaves leaves rfl rfl rfl rfl (List.Perm.refl _)
      · exact .of_leaves leaves rfl rfl rfl rfl (List.Perm.refl _)
  | published version snapshot pending rest top served =>
      exact beside rfl (by rw [top]; rfl) rfl rfl
  | deliver version snapshot listener pending rest top current =>
      exact beside rfl (by rw [top]; rfl) rfl rfl
  | arm id lifespan rest top =>
      have armed := arm_removals { engine with frames := rest } id lifespan
      have now := arm_now { engine with frames := rest } id lifespan
      obtain ⟨countdowns, agenda, shape⟩ := arm_shape { engine with frames := rest } id lifespan
      rw [shape] at armed now ⊢
      refine .keeps (quiet_of_toasts rfl) (armed.trans (List.Perm.of_eq ?_)) now
      rw [removals, removals, top]
      rfl
  | leave toast cause rest top =>
      refine beside rfl ?_ rfl rfl
      cases cause <;> simp [top, Frame.parting?, callback_parting]
  | farewell toast rest top =>
      exact beside rfl (by simp [top, Frame.parting?, callback_parting]) rfl rfl
  | exitWindow toast rest top =>
      -- The removal goes from the stack to the agenda.
      have spawned := Agenda.removals_spawn engine.agenda engine.settings.exitWindow
        (.remove toast.id toast.edition)
      refine .keeps (quiet_of_toasts rfl) ?_ rfl
      rw [removals, removals, top]
      exact (spawned.append_left _).trans List.perm_middle
  | disarm ids rest top =>
      obtain ⟨countdowns, shape⟩ := disarm_shape { engine with frames := rest } ids
      rw [shape]
      exact beside rfl (by rw [top]; rfl) rfl rfl
  | dueDone rest top => exact beside rfl (by rw [top]; rfl) rfl rfl
  | dueGone id ids rest top gone => exact beside rfl (by rw [top]; rfl) rfl rfl
  | due toast ids rest after top leaves =>
      refine .of_leaves leaves rfl rfl rfl rfl (List.Perm.of_eq ?_)
      rw [removals, removals, top]
      rfl
  | handBack frame rest top idle =>
      refine beside rfl ?_ rfl rfl
      rw [top]
      cases frame <;> first | rfl | cases idle
  | waits place agenda idle taken =>
      exact foreign idle taken (fun _ same => by cases same) rfl (by simp [idle]) rfl
  | stale place agenda deed idle taken gone =>
      cases deed with
      | expire id generation =>
          refine foreign idle taken ?_ rfl (by simp [idle]) rfl
          rintro _ ⟨⟩
          rfl
      | remove id edition =>
          refine .closes id edition (removals_takesUp _ idle taken (by simp [idle]) rfl) ?_ taken.now
          refine (List.filter_eq_self.mpr fun toast member => ?_).symm
          have apart := gone toast member
          by_cases same : toast.id = id
          · simp [same, apart same]
          · simp [same]
      | errand ticket => exact gone.elim
  | expireGone place agenda id generation countdowns countdown idle taken expired gone =>
      refine foreign idle taken ?_ rfl (by simp [idle]) rfl
      rintro _ ⟨⟩
      rfl
  | expire place agenda toast generation countdowns countdown after idle taken expired leaves =>
      refine .of_leaves leaves rfl rfl rfl taken.now ?_
      exact (removals_takesUp { engine with agenda, countdowns } idle taken
        (by simp [idle]) rfl).symm
  | remove place agenda id edition after idle taken publishes =>
      refine .closes id edition ?_ publishes.toasts (publishes.now.trans taken.now)
      refine removals_takesUp after idle taken ?_ publishes.agenda
      rw [publishes.frames]
      rfl
  | errand place agenda ticket idle taken =>
      refine foreign idle taken ?_ rfl rfl rfl
      rintro _ ⟨⟩
      rfl
  | pass moment idle later => exact .elapses moment rfl idle later rfl

end Engine

end Toasts
