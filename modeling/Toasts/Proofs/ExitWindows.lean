import Toasts.Proofs.Appointments
import Toasts.Proofs.Goodbyes
import Toasts.Proofs.Removals

/-!
Exit windows over whole runs. Every removal under way goes back to the parting of its edition and
comes to be due when the exit window that began then is over; no two are of one edition, and none of
the records on their way out is without one. A removal whose record has been replaced or cleared is
of an edition that never comes back.
-/

namespace Toasts

/-- A record that begins its exit, as it was just before, and the moment of it. -/
structure Parting where
  toast : Toast
  moment : Nat

/-- A removal is for the record that has parted, and due when its exit window is over; the proposition
is that time passes only when all tasks have begun to wait. -/
structure Parting.Removes (parting : Parting) (window : Span) (prompt : Prop) (now : Nat)
    (removal : Removal) : Prop where
  id : removal.id = parting.toast.id
  edition : removal.edition = parting.toast.edition
  early : parting.moment + window.coveringMillis ≤ removal.ending
  exact : prompt → removal.ending = max (parting.moment + window.coveringMillis) now

namespace Engine

variable {engine after : Engine} {event : Event} {edition : Nat}

def partings (engine after : Engine) : List Parting :=
  (departed engine after).map (⟨·, engine.now⟩)

def Extinct (engine : Engine) (edition : Nat) : Prop :=
  edition ≤ engine.numbers ∧ ∀ toast ∈ engine.store.toasts, toast.edition ≠ edition

theorem Parts.extinct (parts : Parts engine event after) (tidy : Orderly after)
    (extinct : Extinct engine edition) : Extinct after edition := by
  obtain ⟨bound, none⟩ := extinct
  cases parts with
  | quiet quiet numbers owes =>
      refine ⟨Nat.le_trans bound numbers, fun toast member same => ?_⟩
      rcases quiet toast.id toast (tidy.get?_of_mem member) with ⟨new, _⟩ | ⟨old, found, kept, _⟩
      · omega
      · exact none old (Store.mem_of_get? found) (kept.symm.trans same)
  | leaves before leaving cause leaves store numbers origin depth owes =>
      have later := leaves.publishes.numbers
      refine ⟨by omega, fun toast member same => ?_⟩
      obtain ⟨found, look⟩ := leaves.look store
      have present := tidy.get?_of_mem member
      rw [look] at present
      split at present
      next hit =>
          obtain rfl := Option.some.inj present
          exact none leaving (Store.mem_of_get? found) same
      next => exact none toast (Store.mem_of_get? present) same

/-- The records on their way out and the removals under way agree, and the removals go back to
partings. -/
structure Attended (window : Span) (prompt : Prop) (partings : List Parting) (engine : Engine) :
    Prop where
  setting : engine.settings.exitWindow = window
  single : (engine.exits.map Prod.snd).Nodup
  booked : ∀ toast ∈ engine.store.toasts, toast.exiting = true →
    (toast.id, toast.edition) ∈ engine.exits
  once : (partings.map (·.toast.edition)).Nodup
  past : ∀ parting ∈ partings, Outlived engine parting.toast.edition
  timed : ∀ removal ∈ engine.removals, ∃ parting ∈ partings,
    parting.Removes window prompt engine.now removal

section

variable {window : Span} {prompt : Prop} {partings : List Parting}

theorem fresh_attended (settings : Settings) (defaults : Defaults) (now : Nat) (prompt : Prop) :
    Attended settings.exitWindow prompt [] (fresh settings defaults now) where
  setting := rfl
  single := List.nodup_nil
  booked := by simp [fresh]
  once := List.nodup_nil
  past := by simp
  timed := by simp [removals, Agenda.removals, Agenda.endings, fresh]

theorem exit_mem {removal : Removal} (member : removal ∈ engine.removals) :
    removal.exit ∈ engine.exits := by
  rw [← removals_exits]
  exact List.mem_map_of_mem member

theorem exits_perm (gone : List Removal)
    (removals : engine.removals.Perm (gone ++ after.removals)) :
    engine.exits.Perm (gone.map Removal.exit ++ after.exits) := by
  have both := removals.map Removal.exit
  rwa [List.map_append, removals_exits, removals_exits] at both

/-- Some removals may go while no record begins its exit, as long as their records are not there
any more. -/
theorem Attended.quietly (gone : List (ToastId × Nat))
    (attended : Attended window prompt partings engine) (orderly : Orderly engine)
    (tidy : Orderly after) (settings : after.settings = engine.settings)
    (past : ∀ edition, Outlived engine edition → Outlived after edition)
    (quiet : Quiet engine after) (exits : engine.exits.Perm (gone ++ after.exits))
    (spared : ∀ toast ∈ after.store.toasts, (toast.id, toast.edition) ∉ gone)
    (timed : ∀ removal ∈ after.removals, ∃ parting ∈ partings,
      parting.Removes window prompt after.now removal) :
    Attended window prompt (partings ++ engine.partings after) after := by
  have none : engine.partings after = [] := by rw [Engine.partings, quiet.departed orderly]; rfl
  rw [none, List.append_nil]
  refine ⟨settings ▸ attended.setting, ?_, ?_, attended.once, ?_, timed⟩
  · have single := (exits.map Prod.snd).nodup attended.single
    rw [List.map_append] at single
    exact (List.nodup_append.mp single).2.1
  · intro toast member exiting
    rcases quiet toast.id toast (tidy.get?_of_mem member) with ⟨_, live⟩ | ⟨old, found, same, left⟩
    · rw [live] at exiting
      cases exiting
    · have booked := attended.booked old (Store.mem_of_get? found) (left.symm.trans exiting)
      rw [Store.id_of_get? found, ← same] at booked
      rcases List.mem_append.mp (exits.subset booked) with ended | still
      · exact absurd ended (spared toast member)
      · exact still
  · exact fun parting member => past _ (attended.past parting member)

theorem Attended.opens {before : Engine} {toast : Toast} {cause : Cause}
    (attended : Attended window prompt partings engine) (orderly : Orderly engine)
    (tidy : Orderly after) (settings : after.settings = engine.settings)
    (past : ∀ edition, Outlived engine edition → Outlived after edition)
    (leaves : Leaves before after toast cause) (store : before.store = engine.store)
    (numbers : before.numbers = engine.numbers) (now : after.now = engine.now)
    (removals : after.removals.Perm (toast.removal engine.windowEnd :: engine.removals)) :
    Attended window prompt (partings ++ engine.partings after) after := by
  obtain ⟨found, look⟩ := leaves.look store
  have member := Store.mem_of_get? found
  have only : engine.partings after = [⟨toast, engine.now⟩] := by
    rw [Engine.partings, leaves.departed store orderly]
    rfl
  have exits := removals.map Removal.exit
  rw [List.map_cons, removals_exits, removals_exits] at exits
  rw [only]
  refine ⟨settings ▸ attended.setting, ?_, ?_, ?_, ?_, ?_⟩
  -- An edition whose removal was under way already would not be live.
  · apply (exits.map Prod.snd).nodup_iff.mpr
    refine List.nodup_cons.mpr ⟨fun twin => ?_, attended.single⟩
    obtain ⟨exit, under, same⟩ := List.mem_map.mp twin
    have exiting := (orderly.spent exit under).2 toast member same.symm
    rw [leaves.live] at exiting
    cases exiting
  · intro other present exiting
    apply exits.symm.subset
    have looked := tidy.get?_of_mem present
    rw [look] at looked
    split at looked
    next hit =>
        obtain rfl := Option.some.inj looked
        exact List.mem_cons_self
    next =>
        have booked := attended.booked other (Store.mem_of_get? looked) exiting
        exact List.mem_cons_of_mem _ booked
  · rw [List.map_append, List.nodup_append]
    refine ⟨attended.once, List.nodup_singleton _, ?_⟩
    intro edition old other single same
    obtain ⟨parting, parted, rfl⟩ := List.mem_map.mp old
    rw [List.mem_singleton.mp single] at same
    have exiting := (attended.past parting parted).2 toast.id toast found same.symm
    rw [leaves.live] at exiting
    cases exiting
  · intro parting parted
    rcases List.mem_append.mp parted with old | new
    · exact past _ (attended.past parting old)
    · rw [List.mem_singleton.mp new]
      exact leaves.outlived store numbers orderly (.inr rfl)
  · intro removal under
    rw [now]
    rcases List.mem_cons.mp (removals.subset under) with rfl | old
    · refine ⟨_, List.mem_append_right _ List.mem_cons_self, rfl, rfl, ?_, fun _ => ?_⟩
      · exact Nat.le_of_eq (by rw [← attended.setting]; rfl)
      · rw [← attended.setting]
        exact (Nat.max_eq_left (Nat.le_add_right _ _)).symm
    · obtain ⟨parting, parted, removes⟩ := attended.timed removal old
      exact ⟨parting, List.mem_append_left _ parted, removes⟩

theorem Move.attended (move : Move engine event after) (orderly : Orderly engine)
    (soon : prompt → event.isPass = true → engine.agenda.AllBegun)
    (attended : Attended window prompt partings engine) :
    Attended window prompt (partings ++ engine.partings after) after := by
  have tidy := move.orderly orderly
  have settings := move.settings
  have past (edition : Nat) (outlived : Outlived engine edition) : Outlived after edition :=
    (move.parts orderly).outlived orderly outlived
  cases move.passage orderly with
  | keeps quiet removals now =>
      refine attended.quietly [] orderly tidy settings past quiet
        (exits_perm [] removals.symm) (by simp) ?_
      rw [now]
      exact fun removal under => attended.timed removal (removals.subset under)
  | opens before toast cause leaves store numbers removals now =>
      exact attended.opens orderly tidy settings past leaves store numbers now removals
  | closes id edition removals toasts now =>
      refine attended.quietly [(id, edition)] orderly tidy settings past
        (orderly.quiet_filter toasts) (exits_perm [_] removals) ?_ ?_
      · intro toast member single
        rw [toasts] at member
        have kept := (List.mem_filter.mp member).2
        obtain ⟨rfl, rfl⟩ := Prod.mk.inj (List.mem_singleton.mp single)
        simp at kept
      · rw [now]
        intro removal under
        exact attended.timed removal (removals.symm.subset (List.mem_cons_of_mem _ under))
  | elapses moment passes idle later same =>
      subst same
      have works := (Agenda.works_advance engine.agenda moment).filterMap Deed.removal?
      refine attended.quietly [] orderly tidy settings past (quiet_of_toasts rfl)
        (works.symm.append_left _) (fun _ _ => List.not_mem_nil) ?_
      intro removal under
      have idle' : (engine.advance moment).frames = [] := idle
      rw [removals_idle idle'] at under
      obtain ⟨earlier, before, less, begun⟩ := Agenda.removals_advance later under
      rw [← removals_idle idle] at before
      obtain ⟨parting, parted, removes⟩ := attended.timed _ before
      refine ⟨parting, parted, removes.id, removes.edition, Nat.le_trans removes.early less, ?_⟩
      intro quick
      have last := begun (soon quick (by rw [passes]; rfl))
      have first := removes.exact quick
      simp only at first
      have ahead : (engine.advance moment).now = moment := rfl
      omega

/-- At rest the removal of a record on its way out is on the agenda, and is the only one for the only
parting of it. -/
theorem Attended.due (attended : Attended window prompt partings engine) (rest : engine.AtRest)
    {toast : Toast} (member : toast ∈ engine.store.toasts) (exiting : toast.exiting = true) :
    ∃ parting ending, partings.filter (·.toast.edition = toast.edition) = [parting] ∧
      engine.agenda.removals.filter (·.edition = toast.edition) = [toast.removal ending] ∧
      parting.Removes window prompt engine.now (toast.removal ending) := by
  have booked := attended.booked toast member exiting
  rw [← removals_exits] at booked
  obtain ⟨removal, under, same⟩ := List.mem_map.mp booked
  obtain ⟨id, edition⟩ := Prod.mk.inj same
  have whole : toast.removal removal.ending = removal := by rw [Toast.removal, ← id, ← edition]
  obtain ⟨parting, parted, removes⟩ := attended.timed removal under
  refine ⟨parting, removal.ending, ?_, ?_, whole ▸ removes⟩
  · have once := filter_of_distinct (fun parting => parting.toast.edition) attended.once parted
    rwa [← removes.edition, edition] at once
  · have single : (engine.agenda.removals.map (·.edition)).Nodup := by
      have editions := attended.single
      rw [← removals_exits, rest.removals, List.map_map] at editions
      exact editions
    rw [rest.removals] at under
    have removed := filter_of_distinct (fun removal => removal.edition) single under
    rwa [edition, ← whole] at removed

/-- When no record on its way out is there for a removal, its edition is gone for good. -/
theorem Attended.extinct (attended : Attended window prompt partings engine)
    (orderly : Orderly engine) {removal : Removal} (member : removal ∈ engine.removals)
    (none : ∀ toast ∈ engine.store.toasts, toast.exiting = true →
      removal.exit ≠ (toast.id, toast.edition)) : Extinct engine removal.edition := by
  have under := exit_mem member
  obtain ⟨given, spent⟩ := orderly.spent _ under
  refine ⟨given, fun toast present same => ?_⟩
  -- A record of a spent edition is on its way out, so it would be booked as this very removal.
  have exiting := spent toast present same
  have booked := attended.booked toast present exiting
  exact none toast present exiting
    (List.inj_on_of_nodup_map attended.single under booked same.symm)

theorem Move.removed {place : Nat} {toast : Toast} (move : Move engine (.poll place) after)
    (found : engine.get? toast.id = some toast) (gone : after.get? toast.id = none) :
    toast.removal engine.now ∈ engine.removals := by
  have kept {later : Engine} (toasts : later.store.toasts = engine.store.toasts) :
      later.get? toast.id = some toast := (get?_congr toasts _).trans found
  cases move with
  | waits place agenda idle taken => cases gone.symm.trans (kept rfl)
  | stale place agenda deed idle taken missed => cases gone.symm.trans (kept rfl)
  | expireGone place agenda id generation countdowns countdown idle taken expired missed =>
      cases gone.symm.trans (kept rfl)
  | expire place agenda other generation countdowns countdown after idle taken expired leaves =>
      have store : { engine with agenda, countdowns }.store = engine.store := rfl
      obtain ⟨_, look⟩ := leaves.look store
      rw [look, found] at gone
      split at gone <;> cases gone
  | remove place agenda id edition after idle taken publishes =>
      have removals := removals_takesUp { engine with agenda } idle taken
        (by simp [idle]) rfl
      have member : toast ∈ engine.store.toasts := Store.mem_of_get? found
      -- Any record that stays is still found under its identity.
      have hit : toast.id = id ∧ toast.edition = edition := by
        by_contra missed
        have stays : toast ∈ after.store.toasts := by
          rw [publishes.toasts]
          refine List.mem_filter.mpr ⟨member, ?_⟩
          simpa [Decidable.imp_iff_not_or] using missed
        have absent := List.find?_eq_none.mp gone toast stays
        simp at absent
      obtain ⟨rfl, rfl⟩ := hit
      exact removals.symm.subset List.mem_cons_self
  | errand place agenda ticket idle taken => cases gone.symm.trans (kept rfl)

/-- The records whose exit has begun and whose removal is not yet on the agenda. -/
def parting (engine : Engine) : List Toast := engine.frames.filterMap Frame.parting?

/-- Where the exits come from that are under way after a stride, and the removals on the agenda. An
exit was under way at the same moment or begins now. A removal was on the agenda, or an exit asks for
it now, to be due when an exit window is over. -/
structure Flows (engine after : Engine) : Prop where
  exits : ∀ toast ∈ after.parting, (toast ∈ engine.parting ∧ after.now = engine.now) ∨
    ⟨toast, after.now⟩ ∈ engine.partings after
  removals : ∀ id edition, .remove id edition ∈ after.agenda.works →
    .remove id edition ∈ engine.agenda.works ∨ ∃ toast ∈ engine.parting,
      toast.id = id ∧ toast.edition = edition ∧
        (.remove id edition, engine.windowEnd) ∈ engine.agenda.asked after.agenda

theorem flows_of_subset (exits : after.parting ⊆ engine.parting) (now : after.now = engine.now)
    (removals : ∀ id edition, .remove id edition ∈ after.agenda.works →
      .remove id edition ∈ engine.agenda.works) : Flows engine after where
  exits _ member := .inl ⟨exits member, now⟩
  removals id edition member := .inl (removals id edition member)

theorem parting_cons {frame : Frame} {rest : List Frame} (top : engine.frames = frame :: rest) :
    engine.parting = frame.parting?.toList ++ rest.filterMap Frame.parting? := by
  rw [parting, top, List.filterMap_cons]
  cases frame.parting? <;> rfl

theorem remove_of_keepVigils {agenda : Agenda Deed} {vigils : List (Vigil ToastId)} {id : ToastId}
    (member : .remove id edition ∈ (keepVigils agenda vigils).works) :
    .remove id edition ∈ agenda.works := by
  rcases Agenda.mem_works_keep.mp (show .remove id edition ∈ (agenda.keep .expire vigils).works
    from member) with old | ⟨vigil, _, made⟩
  · exact old
  · cases made

theorem Publishes.flows {toasts : List Toast} {rest : List Frame}
    (publishes : Publishes engine after toasts rest)
    (exits : rest.filterMap Frame.parting? ⊆ engine.parting) : Flows engine after := by
  refine flows_of_subset ?_ publishes.now fun id edition member => publishes.agenda ▸ member
  rw [parting_cons publishes.frames]
  exact exits

theorem Leaves.flows {before : Engine} {toast : Toast} {cause : Cause}
    (leaves : Leaves before after toast cause) (orderly : Orderly engine)
    (store : before.store = engine.store) (exits : before.parting ⊆ engine.parting)
    (now : before.now = engine.now)
    (removals : ∀ id edition, .remove id edition ∈ before.agenda.works →
      .remove id edition ∈ engine.agenda.works) : Flows engine after := by
  have same : after.now = engine.now := leaves.publishes.now.trans now
  have parted : engine.partings after = [⟨toast, engine.now⟩] := by
    rw [Engine.partings, leaves.departed store orderly]
    rfl
  constructor
  · intro other member
    rw [parting_cons leaves.publishes.frames] at member
    rcases List.mem_cons.mp member with rfl | old
    · right
      rw [parted, same]
      exact List.mem_singleton_self _
    · exact .inl ⟨exits old, same⟩
  · intro id edition member
    rw [leaves.publishes.agenda] at member
    exact .inl (removals id edition member)

theorem Effect.flows (effect : Effect engine after) (orderly : Orderly engine) :
    Flows engine after := by
  have now := effect.now
  cases effect with
  | calm pushed outside steady toasts version countdowns agenda frames =>
      refine flows_of_subset ?_ now ?_
      · have none : pushed.filterMap Frame.parting? = [] := by
          apply List.filterMap_eq_nil_iff.mpr
          intro frame member
          have out := outside frame member
          cases frame <;> first | rfl | cases out
        rw [parting, frames, List.filterMap_append, none]
        exact List.Subset.refl _
      · intro id edition member
        rcases agenda with same | ⟨delay, ticket, same⟩
        · rwa [same] at member
        · rw [same] at member
          simpa using (Agenda.works_spawn _ _ _).subset member
  | shows shows =>
      cases shows with
      | revise toast revised options number found live made new publishes =>
          exact publishes.flows (List.Subset.refl _)
      | append toast options number made new publishes =>
          exact publishes.flows (List.Subset.refl _)
  | leaves toast leaves =>
      exact leaves.flows orderly rfl (List.Subset.refl _) rfl fun _ _ member => member
  | clears position publishes => exact publishes.flows (List.Subset.refl _)
  | spares position spared same =>
      subst same
      exact flows_of_subset (List.Subset.refl _) now fun _ _ member => member
  | paints toast painted found made publishes => exact publishes.flows (List.Subset.refl _)
  | pauses same =>
      subst same
      exact flows_of_subset (List.Subset.refl _) now fun _ _ member => member
  | resumes same =>
      subst same
      exact flows_of_subset (List.Subset.refl _) now fun _ _ => remove_of_keepVigils

theorem Move.flows (move : Move engine event after) (orderly : Orderly engine) :
    Flows engine after := by
  -- Where the agenda stays as it is, only the frames count.
  have beside {later : Engine} (exits : later.parting ⊆ engine.parting)
      (agenda : later.agenda = engine.agenda) : Flows engine later := by
    refine flows_of_subset exits ?_ fun id edition member => agenda ▸ member
    rw [Engine.now, agenda, Engine.now]
  have below {frame : Frame} {rest : List Frame} (top : engine.frames = frame :: rest) :
      rest.filterMap Frame.parting? ⊆ engine.parting := by
    rw [parting_cons top]
    exact List.subset_append_right _ _
  have fewer {agenda : Agenda Deed} {outcome : Option Deed}
      (taken : engine.agenda.TakesUp agenda outcome) (id : ToastId) (edition : Nat)
      (member : .remove id edition ∈ agenda.works) : .remove id edition ∈ engine.agenda.works :=
    taken.works.symm.subset (List.mem_append_right _ member)
  have taken {agenda : Agenda Deed} {outcome : Option Deed} {later : Engine}
      (taken : engine.agenda.TakesUp agenda outcome) (same : later.agenda = agenda)
      (exits : later.parting ⊆ engine.parting) : Flows engine later := by
    refine flows_of_subset exits ?_ fun id edition member => fewer taken id edition (same ▸ member)
    rw [Engine.now, same, taken.now, Engine.now]
  cases move with
  | request operation after answer turn effect =>
      have flows := effect.flows (orderly.answering answer)
      exact ⟨flows.exits, flows.removals⟩
  | published version snapshot pending rest top served => exact beside (below top) rfl
  | deliver version snapshot listener pending rest top current =>
      have kept := below top
      exact beside kept rfl
  | arm id lifespan rest top =>
      refine flows_of_subset ?_ (arm_now _ id lifespan) ?_
      · obtain ⟨countdowns, agenda, shape⟩ := arm_shape { engine with frames := rest } id lifespan
        rw [shape]
        exact below top
      · intro other edition member
        simp only [Engine.arm] at member
        split at member
        next => exact member
        next => exact remove_of_keepVigils member
  | leave toast cause rest top =>
      refine beside ?_ rfl
      cases cause <;> simp [parting, top, Frame.parting?, callback_parting]
  | farewell toast rest top =>
      exact beside (by simp [parting, top, Frame.parting?, callback_parting]) rfl
  | exitWindow toast rest top =>
      have own : toast ∈ engine.parting := by
        rw [parting_cons top]
        exact List.mem_cons_self
      constructor
      · exact fun other member => .inl ⟨below top member, rfl⟩
      · intro id edition member
        rcases List.mem_cons.mp ((Agenda.works_spawn _ _ _).subset member) with new | old
        · obtain ⟨rfl, rfl⟩ := Deed.remove.inj new
          exact .inr ⟨toast, own, rfl, rfl, by simp [Agenda.asked, Agenda.spawn, Task.wait?,
            windowEnd, Agenda.deadline]⟩
        · exact .inl old
  | disarm ids rest top =>
      obtain ⟨countdowns, shape⟩ := disarm_shape { engine with frames := rest } ids
      rw [shape]
      exact beside (below top) rfl
  | dueDone rest top => exact beside (below top) rfl
  | dueGone id ids rest top gone =>
      have kept := below top
      exact beside kept rfl
  | due toast ids rest after top leaves =>
      have kept := below top
      exact leaves.flows orderly rfl kept rfl fun _ _ member => member
  | handBack frame rest top idle => exact beside (below top) rfl
  | waits place agenda idle begins => exact taken begins rfl (List.Subset.refl _)
  | stale place agenda deed idle ends gone => exact taken ends rfl (List.Subset.refl _)
  | expireGone place agenda id generation countdowns countdown idle ends expired gone =>
      exact taken ends rfl (List.Subset.refl _)
  | expire place agenda toast generation countdowns countdown after idle ends expired leaves =>
      exact leaves.flows orderly rfl (List.Subset.refl _) ends.now (fewer ends)
  | remove place agenda id edition after idle ends publishes =>
      refine taken ends publishes.agenda ?_
      rw [parting_cons publishes.frames]
      exact List.nil_subset _
  | errand place agenda ticket idle ends => exact taken ends rfl (List.nil_subset _)
  | pass moment idle later =>
      have works := Agenda.works_advance engine.agenda moment
      constructor
      · intro toast member
        simp [parting, Engine.advance, idle] at member
      · exact fun id edition member => .inl (works.subset member)

end

namespace Run

variable {settings : Settings} {defaults : Defaults} {now : Nat} {start finish : Engine}

def partings {finish : Engine} : Run start finish → List Parting
  | .start => []
  | @Run.next _ engine after run _ _ => run.partings ++ engine.partings after

theorem attended (run : Run (fresh settings defaults now) finish) (managed : run.Managed) :
    Attended settings.exitWindow run.Prompt run.partings finish := by
  have general {prompt : Prop} (soon : prompt → run.Prompt) :
      Attended settings.exitWindow prompt run.partings finish := by
    induction run with
    | start => exact fresh_attended settings defaults now prompt
    | next run event stride ih =>
        have move := stride.move managed.2
        exact move.attended (run.orderly managed.1) (fun quick => (soon quick).2)
          (ih managed.1 fun quick => (soon quick).1)
  exact general id

theorem extinct {edition : Nat} (run : Run start finish) (managed : run.Managed)
    (orderly : Orderly start) (extinct : Extinct start edition) : Extinct finish edition := by
  have kept := run.kept (Extinct · edition) managed orderly extinct fun move tidy none =>
    (move.parts tidy).extinct (move.orderly tidy) none
  exact kept.2

/-- Every exit under way has begun at this moment, and every removal on the agenda was asked for to be
due when the exit window of its record's parting is over. -/
theorem asked_window (run : Run (fresh settings defaults now) finish) (managed : run.Managed) :
    (∀ toast ∈ finish.parting, ⟨toast, finish.now⟩ ∈ run.partings) ∧
    ∀ id edition, .remove id edition ∈ finish.agenda.works → ∃ parting ∈ run.partings,
      parting.toast.id = id ∧ parting.toast.edition = edition ∧
      (.remove id edition, parting.moment + settings.exitWindow.coveringMillis) ∈ run.asked := by
  induction run with
  | start => exact ⟨fun _ member => (nomatch member), fun _ _ member => (nomatch member)⟩
  | @next engine after run event stride ih =>
      obtain ⟨exits, removals⟩ := ih managed.1
      have flows := (stride.move managed.2).flows (run.orderly managed.1)
      constructor
      · intro toast member
        rcases flows.exits toast member with ⟨old, same⟩ | new
        · exact List.mem_append_left _ (same ▸ exits toast old)
        · exact List.mem_append_right _ new
      · intro id edition member
        rcases flows.removals id edition member with old | ⟨toast, leaving, rfl, rfl, asked⟩
        · obtain ⟨parting, parted, sameId, sameEdition, asked⟩ := removals id edition old
          exact ⟨parting, List.mem_append_left _ parted, sameId, sameEdition,
            List.mem_append_left _ asked⟩
        · rw [windowEnd, (run.attended managed.1).setting] at asked
          exact ⟨_, List.mem_append_left _ (exits toast leaving), rfl, rfl,
            List.mem_append_right _ asked⟩

theorem removal_ahead (run : Run (fresh settings defaults now) finish) (managed : run.Managed)
    (idle : finish.agenda.ready = []) {removal : Removal}
    (under : removal ∈ finish.agenda.removals) : finish.now < removal.ending := by
  have watched : OnWatch False finish := run.onWatch managed False.elim
  obtain ⟨⟨deed, moment⟩, present, made⟩ := List.mem_filterMap.mp under
  obtain ⟨same, _⟩ := Agenda.removalAt?_ending 0 made
  rw [Agenda.endings, idle] at present
  obtain ⟨wait, waiting, wakes⟩ := List.mem_map.mp present
  obtain ⟨_, rfl⟩ := Prod.mk.inj wakes
  rw [same]
  exact watched.ahead wait waiting

/-- The exit window removes every record on its way out and nothing else. In every managed run: at
rest each such record has parted once, and has one removal on the agenda, which was asked for to be
due when the exit window that began with the parting is over. It cannot be carried out earlier; where
time passes only after every task has begun to wait, it can be at that moment exactly, and the record
is gone by then once all that is ready has been taken up. A removal without such a record never finds
one again. And a wait that is over takes a record only if that one is on its way out and its exit
window is over. -/
theorem exit_windows_exact (run : Run (fresh settings defaults now) finish) (managed : run.Managed) :
    (finish.AtRest → ∀ toast ∈ finish.store.toasts, toast.exiting = true →
      ∃ parting ending, run.partings.filter (·.toast.edition = toast.edition) = [parting] ∧
        parting.toast.id = toast.id ∧
        finish.agenda.removals.filter (·.edition = toast.edition) = [toast.removal ending] ∧
        (.remove toast.id toast.edition, parting.moment + settings.exitWindow.coveringMillis) ∈
          run.asked ∧
        parting.moment + settings.exitWindow.coveringMillis ≤ ending ∧
        (run.Prompt →
          ending = max (parting.moment + settings.exitWindow.coveringMillis) finish.now) ∧
        (run.Prompt → finish.agenda.ready = [] →
          finish.now < parting.moment + settings.exitWindow.coveringMillis)) ∧
    (∀ removal ∈ finish.agenda.removals,
      (∀ toast ∈ finish.store.toasts, toast.exiting = true →
        removal.exit ≠ (toast.id, toast.edition)) →
      ∀ {last} (later : Run finish last), later.Managed →
        ∀ toast ∈ last.store.toasts, toast.edition ≠ removal.edition) ∧
    (∀ {place after}, Stride finish (.poll place) after → ∀ toast,
      finish.get? toast.id = some toast → after.get? toast.id = none →
        toast.exiting = true ∧ ∃ parting ∈ run.partings, parting.toast.edition = toast.edition ∧
          parting.moment + settings.exitWindow.coveringMillis ≤ finish.now) := by
  have attended := run.attended managed
  have orderly := run.orderly managed
  refine ⟨?_, ?_, ?_⟩
  · intro rest toast member exiting
    obtain ⟨parting, ending, once, removed, removes⟩ := attended.due rest member exiting
    have under : toast.removal ending ∈ finish.agenda.removals :=
      (List.mem_filter.mp (removed ▸ List.mem_singleton_self _)).1
    refine ⟨parting, ending, once, removes.id.symm, removed, ?_, removes.early, removes.exact, ?_⟩
    · obtain ⟨other, parted, _, same, asked⟩ :=
        (run.asked_window managed).2 _ _ (Agenda.mem_works_of_removals under)
      have among : other ∈ run.partings.filter (·.toast.edition = toast.edition) :=
        List.mem_filter.mpr ⟨parted, decide_eq_true same⟩
      rw [once] at among
      obtain rfl := List.mem_singleton.mp among
      exact asked
    · intro quick idle
      have moment := removes.exact quick
      have ahead := run.removal_ahead managed idle under
      omega
  · intro removal member none last later kept
    have extinct := attended.extinct orderly (List.mem_append_right _ member) none
    exact (later.extinct kept orderly extinct).2
  · intro place after stride toast found gone
    have under := (stride.move rfl).removed found gone
    have exiting := (orderly.spent _ (exit_mem under)).2 toast (Store.mem_of_get? found) rfl
    obtain ⟨parting, parted, removes⟩ := attended.timed _ under
    exact ⟨exiting, parting, parted, removes.edition.symm, removes.early⟩

/-- A toast is dismissed, shown again at once, and dismissed for a second time 100 ms later, when a
pause begins. -/
def twice : Σ finish, Run (fresh {} {} 0) finish :=
  (Run.start.extend? [
    .request (.present { id := some (.named "x") }), .proceed, .proceed, .handBack, .poll 0,
    .request (.dismiss (.named "x")), .proceed, .proceed, .proceed, .proceed, .handBack, .poll 0,
    .request (.present { id := some (.named "x") }), .proceed, .proceed, .handBack, .poll 0,
    .pass 100, .request (.dismiss (.named "x")), .proceed, .proceed, .proceed, .proceed, .handBack,
    .poll 0, .request .pause, .handBack]).get rfl

def leaving : Toast := (twice.1.get? (.named "x")).get rfl

def thrice : Σ finish, Run twice.1 finish :=
  (Run.start.extend? [.pass 400, .poll 0, .request (.present { id := some (.named "x") }), .proceed,
    .proceed, .handBack]).get rfl

def twiceOver : Σ finish, Run (fresh {} {} 0) finish :=
  (twice.2.extend? [.pass 400, .poll 0, .pass 500]).get rfl

theorem twice_removed :
    (twice.2.Managed ∧ twice.2.Prompt ∧ twice.1.AtRest ∧ leaving ∈ twice.1.store.toasts ∧
      leaving.exiting = true ∧ ∃ parting ending,
        twice.2.partings.filter (·.toast.edition = leaving.edition) = [parting] ∧
        (.remove leaving.id leaving.edition,
          parting.moment + ({} : Settings).exitWindow.coveringMillis) ∈ twice.2.asked ∧
        ending = max (parting.moment + ({} : Settings).exitWindow.coveringMillis) twice.1.now ∧
        twice.1.now < parting.moment + ({} : Settings).exitWindow.coveringMillis) ∧
    (∃ removal ∈ twice.1.agenda.removals, removal.edition = 1 ∧
      ∀ toast ∈ thrice.1.store.toasts, toast.edition ≠ removal.edition) ∧
    (∃ after, twiceOver.1.follow? (.poll 0) = some after ∧ after.store.toasts = [] ∧
      ∃ parting ∈ twiceOver.2.partings, parting.toast.edition = leaving.edition ∧
        parting.moment + ({} : Settings).exitWindow.coveringMillis ≤ twiceOver.1.now) := by
  obtain ⟨due, rest, _⟩ := exit_windows_exact twice.2 (by decide)
  have present : twice.1.get? (.named "x") = some leaving := (Option.some_get rfl).symm
  have member : leaving ∈ twice.1.store.toasts := Store.mem_of_get? present
  refine ⟨⟨by decide, by decide, by decide, member, by decide, ?_⟩, ?_, ?_⟩
  · obtain ⟨parting, ending, once, _, _, asked, _, exact, ahead⟩ :=
      due (by decide) leaving member (by decide)
    exact ⟨parting, ending, once, asked, exact (by decide), ahead (by decide) rfl⟩
  · refine ⟨_, List.mem_cons_self, rfl, ?_⟩
    exact rest _ List.mem_cons_self (by decide) thrice.2 (by decide)
  · have followed : twiceOver.1.follow? (.poll 0) = some _ := rfl
    have found : twiceOver.1.get? leaving.id = some leaving := rfl
    obtain ⟨_, parting, parted, same, past⟩ :=
      (exit_windows_exact twiceOver.2 (by decide)).2.2 (follow?_stride followed) leaving found rfl
    exact ⟨_, followed, rfl, parting, parted, same, past⟩

/-- A toast is shown and dismissed, and the tasks of both begin to wait 100 ms later. -/
def belated : Σ finish, Run (fresh {} {} 0) finish :=
  (Run.start.extend? [
    .request (.present { id := some (.named "x") }), .proceed, .proceed, .handBack,
    .request (.dismiss (.named "x")), .proceed, .proceed, .proceed, .proceed, .handBack, .pass 100,
    .poll 0, .poll 0, .pass 400]).get rfl

/-- A toast is shown, and someone makes its record one on its way out past the engine. -/
def tampered : Σ finish, Run (fresh {} {} 0) finish :=
  (Run.start.extend? [
    .request (.present { id := some (.named "x") }), .proceed, .proceed, .handBack,
    .request (.write (.update (.named "x") fun toast =>
      some { toast with exiting := true, lifecycle := .exiting })), .proceed, .handBack]).get rfl

/-- A removal is late when its task begins late: the exit window is over and nothing is ready, but the
record is there, and its removal is due 100 ms after that. A record that is written past the engine
has no removal at all. -/
theorem belated_removal_late :
    (belated.2.Managed ∧ belated.1.AtRest ∧ belated.1.agenda.ready = [] ∧
      belated.2.partings.map (·.moment) = [0] ∧
      belated.1.now = ({} : Settings).exitWindow.coveringMillis ∧
      belated.1.store.toasts.map (·.exiting) = [true] ∧
      belated.1.agenda.removals.map (·.ending) = [500]) ∧
    tampered.1.AtRest ∧ tampered.1.store.toasts.map (·.exiting) = [true] ∧
      tampered.1.agenda.removals = [] := by
  decide

end Run

end Engine

end Toasts
