import Mathlib.Data.List.Nodup
import Toasts.Proofs.Moves

/-!
The records of the store. Identities and editions are never shared by two records, every edition has
been given out, and an edition whose exit is under way, as a frame or on the agenda, belongs to no
live record any more. `Orderly` says so of an engine, and every move of a managed run keeps it.
-/

namespace Toasts

namespace Store

variable {toasts : List Toast} {id other : ToastId} {toast revised : Toast}

def find? (toasts : List Toast) (id : ToastId) : Option Toast := toasts.find? (·.id = id)

theorem find?_split (found : find? toasts id = some toast) :
    ∃ before after, toasts = before ++ toast :: after ∧ toast.id = id ∧
      (∀ earlier ∈ before, earlier.id ≠ id) ∧
      ∀ revised, replaceFirst id revised toasts = before ++ revised :: after := by
  induction toasts with
  | nil => cases found
  | cons head rest ih =>
      by_cases hit : head.id = id
      · obtain rfl : head = toast := by simpa [find?, hit] using found
        exact ⟨[], rest, rfl, hit, by simp, fun revised => by simp [replaceFirst, hit]⟩
      · have later : find? rest id = some toast := by simpa [find?, hit] using found
        obtain ⟨before, after, rfl, same, earlier, replaced⟩ := ih later
        refine ⟨head :: before, after, rfl, same, by simpa [hit] using earlier, fun revised => ?_⟩
        simp [replaceFirst, hit, replaced revised]

theorem find?_replaceFirst (found : find? toasts id = some toast) (same : revised.id = id)
    (other : ToastId) : find? (replaceFirst id revised toasts) other =
      if id = other then some revised else find? toasts other := by
  obtain ⟨before, after, rfl, toastId, earlier, replaced⟩ := find?_split found
  rw [replaced revised]
  by_cases hit : id = other
  · subst hit
    have missed : before.find? (fun toast => decide (toast.id = id)) = none := by
      simpa using earlier
    simp [find?, List.find?_append, missed, same]
  · simp [find?, List.find?_append, same, toastId, hit]

theorem find?_put (toasts : List Toast) (toast : Toast) (other : ToastId) :
    find? (toasts.filter (·.id ≠ toast.id) ++ [toast]) other =
      if toast.id = other then some toast else find? toasts other := by
  by_cases hit : toast.id = other
  · subst hit
    have missed : (toasts.filter fun old => decide (old.id ≠ toast.id)).find?
        (fun old => decide (old.id = toast.id)) = none := by simp
    simp only [find?, List.find?_append, missed]
    simp
  · have kept : (toasts.filter fun old => decide (old.id ≠ toast.id)).find?
        (fun old => decide (old.id = other)) = toasts.find? fun old => decide (old.id = other) := by
      rw [List.find?_filter]
      congr 1
      funext old
      by_cases same : old.id = other
      · simp [same, Ne.symm hit]
      · simp [same]
    simp only [find?, List.find?_append, kept, hit, if_false]
    simp [hit]

theorem find?_of_mem (distinct : (toasts.map (·.id)).Nodup) (member : toast ∈ toasts) :
    find? toasts toast.id = some toast := by
  induction toasts with
  | nil => cases member
  | cons head rest ih =>
      rw [List.map_cons, List.nodup_cons] at distinct
      rcases List.mem_cons.mp member with rfl | later
      · simp [find?]
      · have apart : head.id ≠ toast.id := fun same =>
          distinct.1 (same ▸ List.mem_map_of_mem later)
        simpa [find?, apart] using ih distinct.2 later

theorem find?_filter (distinct : (toasts.map (·.id)).Nodup) (kept : Toast → Bool) (id : ToastId) :
    find? (toasts.filter kept) id = (find? toasts id).filter kept := by
  cases found : find? toasts id with
  | none =>
      have absent : ∀ toast ∈ toasts, toast.id ≠ id := by simpa [find?] using found
      have missed : find? (toasts.filter kept) id = none := by
        simp only [find?, List.find?_eq_none, List.mem_filter, decide_eq_true_eq]
        exact fun toast member => absent toast member.1
      simp [missed]
  | some toast =>
      obtain ⟨_, _, _, same, _⟩ := find?_split found
      have member : toast ∈ toasts := List.mem_of_find?_eq_some found
      subst same
      have apart : ((toasts.filter kept).map (·.id)).Nodup :=
        distinct.sublist (List.filter_sublist.map _)
      cases keeps : kept toast with
      | true =>
          have stays := find?_of_mem apart (List.mem_filter.mpr ⟨member, keeps⟩)
          simp [Option.filter, keeps, stays]
      | false =>
          have missed : find? (toasts.filter kept) toast.id = none := by
            simp only [find?, List.find?_eq_none, List.mem_filter, decide_eq_true_eq]
            intro old both same
            have twin := find?_of_mem distinct both.1
            rw [same, found] at twin
            obtain rfl := Option.some.inj twin
            rw [keeps] at both
            cases both.2
          simp [Option.filter, keeps, missed]

end Store

def Frame.parting? : Frame → Option Toast
  | .leave toast _ => some toast
  | .farewell toast => some toast
  | .exitWindow toast => some toast
  | _ => none

def Deed.removal? : Deed → Option (ToastId × Nat)
  | .remove id edition => some (id, edition)
  | _ => none

namespace Engine

def exits (engine : Engine) : List (ToastId × Nat) :=
  (engine.frames.filterMap Frame.parting?).map (fun toast => (toast.id, toast.edition)) ++
    engine.agenda.works.filterMap Deed.removal?

structure Orderly (engine : Engine) : Prop where
  ids : (engine.store.toasts.map (·.id)).Nodup
  editions : (engine.store.toasts.map (·.edition)).Nodup
  numbered : ∀ toast ∈ engine.store.toasts, toast.edition ≤ engine.numbers
  spent : ∀ exit ∈ engine.exits, exit.2 ≤ engine.numbers ∧
    ∀ toast ∈ engine.store.toasts, toast.edition = exit.2 → toast.exiting = true

theorem fresh_orderly (settings : Settings) (defaults : Defaults) (now : Nat) :
    Orderly (fresh settings defaults now) where
  ids := by simp [fresh]
  editions := by simp [fresh]
  numbered := by simp [fresh]
  spent := by simp [fresh, exits, Agenda.works]

theorem Orderly.get?_of_mem {engine : Engine} {toast : Toast} (orderly : Orderly engine)
    (member : toast ∈ engine.store.toasts) : engine.get? toast.id = some toast :=
  Store.find?_of_mem orderly.ids member

theorem gone_or_live (engine : Engine) (id : ToastId) :
    (∀ toast, engine.get? id = some toast → toast.exiting = true) ∨
      ∃ toast, engine.get? id = some toast ∧ toast.exiting = false := by
  by_cases gone : ∀ toast, engine.get? id = some toast → toast.exiting = true
  · exact .inl gone
  · push Not at gone
    obtain ⟨toast, found, stays⟩ := gone
    exact .inr ⟨toast, found, by simpa using stays⟩

theorem get?_replaced {engine after : Engine} {toast revised : Toast}
    (found : engine.get? toast.id = some toast) (same : revised.id = toast.id)
    (toasts : after.store.toasts = Store.replaceFirst toast.id revised engine.store.toasts)
    (id : ToastId) : after.get? id = if toast.id = id then some revised else engine.get? id := by
  have look := Store.find?_replaceFirst found same id
  rwa [← toasts] at look

theorem get?_put {engine after : Engine} {toast : Toast}
    (toasts : after.store.toasts = engine.store.toasts.filter (·.id ≠ toast.id) ++ [toast])
    (id : ToastId) : after.get? id = if toast.id = id then some toast else engine.get? id := by
  have look := Store.find?_put engine.store.toasts toast id
  rwa [← toasts] at look

theorem Orderly.get?_filter {engine after : Engine} {kept : Toast → Bool} (orderly : Orderly engine)
    (toasts : after.store.toasts = engine.store.toasts.filter kept) (id : ToastId) :
    after.get? id = (engine.get? id).filter kept := by
  have look := Store.find?_filter orderly.ids kept id
  rwa [← toasts] at look

theorem get?_congr {engine after : Engine} (toasts : after.store.toasts = engine.store.toasts)
    (id : ToastId) : after.get? id = engine.get? id := by
  simp [get?, Store.get?, toasts]

theorem Orderly.eq_of_edition {engine : Engine} {toast other : Toast} (orderly : Orderly engine)
    (member : toast ∈ engine.store.toasts) (otherMember : other ∈ engine.store.toasts)
    (same : toast.edition = other.edition) : toast = other :=
  List.inj_on_of_nodup_map orderly.editions member otherMember same

theorem Orderly.thinned {engine after : Engine} (orderly : Orderly engine)
    (toasts : after.store.toasts.Sublist engine.store.toasts)
    (numbers : engine.numbers ≤ after.numbers) (exits : after.exits ⊆ engine.exits) :
    Orderly after where
  ids := orderly.ids.sublist (toasts.map _)
  editions := orderly.editions.sublist (toasts.map _)
  numbered toast member := Nat.le_trans (orderly.numbered toast (toasts.subset member)) numbers
  spent exit under := by
    have before := orderly.spent exit (exits under)
    exact ⟨Nat.le_trans before.1 numbers, fun toast member => before.2 toast (toasts.subset member)⟩

theorem Orderly.answering {engine : Engine} (orderly : Orderly engine) (answer : Answer) :
    Orderly { engine with frames := .returned answer :: engine.frames } :=
  orderly.thinned (List.Sublist.refl _) (Nat.le_refl _)
    (by simp [exits, Frame.parting?, List.filterMap_cons])

/-- A record takes the place of another one with the same identity. Either it is a new edition, or
the edition stays and what was exiting stays exiting. -/
theorem Orderly.replaced {engine after : Engine} {toast revised : Toast} (orderly : Orderly engine)
    (found : engine.get? toast.id = some toast)
    (toasts : after.store.toasts = Store.replaceFirst toast.id revised engine.store.toasts)
    (same : revised.id = toast.id)
    (edition : engine.numbers < revised.edition ∨
      (revised.edition = toast.edition ∧ (toast.exiting = true → revised.exiting = true)))
    (numbers : engine.numbers ≤ after.numbers) (given : revised.edition ≤ after.numbers)
    (exits : ∀ exit ∈ after.exits, exit ∈ engine.exits ∨
      (exit.2 = toast.edition ∧ revised.exiting = true)) : Orderly after := by
  obtain ⟨before, rest, split, _, _, replace⟩ := Store.find?_split found
  rw [replace revised] at toasts
  have member : toast ∈ engine.store.toasts := by simp [split]
  -- No other record shares the edition of the one that is replaced.
  have others : ∀ old ∈ before ++ rest, old ∈ engine.store.toasts ∧ old.edition ≠ toast.edition := by
    intro old present
    have stays : old ∈ engine.store.toasts := by
      rw [split]
      exact (List.Sublist.append_left (List.sublist_cons_self toast rest) before).subset present
    refine ⟨stays, fun twin => ?_⟩
    have editions := orderly.editions
    rw [split, List.map_append, List.map_cons, List.nodup_middle, ← List.map_append] at editions
    exact (List.nodup_cons.mp editions).1 (twin ▸ List.mem_map_of_mem present)
  have either : ∀ old ∈ after.store.toasts, old = revised ∨ old ∈ before ++ rest := by
    intro old present
    rw [toasts, List.mem_append, List.mem_cons] at present
    rw [List.mem_append]
    tauto
  constructor
  · have ids := orderly.ids
    rw [split, List.map_append, List.map_cons, List.nodup_middle] at ids
    rw [toasts, List.map_append, List.map_cons, List.nodup_middle, same]
    exact ids
  · have editions := orderly.editions
    rw [split, List.map_append, List.map_cons, List.nodup_middle] at editions
    rw [toasts, List.map_append, List.map_cons, List.nodup_middle, List.nodup_cons,
      ← List.map_append]
    refine ⟨fun clash => ?_, by rw [List.map_append]; exact (List.nodup_cons.mp editions).2⟩
    obtain ⟨old, present, twin⟩ := List.mem_map.mp clash
    have apart := others old present
    have bound := orderly.numbered old apart.1
    rcases edition with new | ⟨kept, _⟩
    · omega
    · exact apart.2 (twin.trans kept)
  · intro old present
    rcases either old present with rfl | other
    · exact given
    · exact Nat.le_trans (orderly.numbered old (others old other).1) numbers
  · intro exit under
    have bound : exit.2 ≤ engine.numbers := by
      rcases exits exit under with old | ⟨same, _⟩
      · exact (orderly.spent exit old).1
      · exact same ▸ orderly.numbered toast member
    refine ⟨Nat.le_trans bound numbers, fun old present twin => ?_⟩
    rcases either old present with rfl | other
    · rcases edition with new | ⟨kept, stays⟩
      · omega
      · rcases exits exit under with gone | ⟨_, exiting⟩
        · exact stays ((orderly.spent exit gone).2 toast member (kept.symm.trans twin))
        · exact exiting
    · rcases exits exit under with gone | ⟨same, _⟩
      · exact (orderly.spent exit gone).2 old (others old other).1 twin
      · exact absurd (twin.trans same) (others old other).2

theorem Orderly.appended {engine after : Engine} {toast : Toast} (orderly : Orderly engine)
    (toasts : after.store.toasts = engine.store.toasts.filter (·.id ≠ toast.id) ++ [toast])
    (new : engine.numbers < toast.edition) (given : toast.edition ≤ after.numbers)
    (exits : after.exits ⊆ engine.exits) : Orderly after := by
  have thinner : (engine.store.toasts.filter (·.id ≠ toast.id)).Sublist engine.store.toasts :=
    List.filter_sublist
  constructor
  · rw [toasts, List.map_append, List.map_singleton, List.nodup_append]
    refine ⟨orderly.ids.sublist (thinner.map _), by simp, ?_⟩
    intro id present other single same
    obtain ⟨old, member, rfl⟩ := List.mem_map.mp present
    rw [List.mem_singleton.mp single] at same
    exact of_decide_eq_true (List.mem_filter.mp member).2 same
  · rw [toasts, List.map_append, List.map_singleton, List.nodup_append]
    refine ⟨orderly.editions.sublist (thinner.map _), by simp, ?_⟩
    intro edition present other single same
    obtain ⟨old, member, rfl⟩ := List.mem_map.mp present
    rw [List.mem_singleton.mp single] at same
    have bound := orderly.numbered old (thinner.subset member)
    omega
  · intro old present
    rw [toasts, List.mem_append, List.mem_singleton] at present
    rcases present with member | rfl
    · have bound := orderly.numbered old (thinner.subset member)
      omega
    · exact given
  · intro exit under
    have before := orderly.spent exit (exits under)
    refine ⟨by omega, fun old present twin => ?_⟩
    rw [toasts, List.mem_append, List.mem_singleton] at present
    rcases present with member | rfl
    · exact before.2 old (thinner.subset member) twin
    · omega

theorem Publishes.exits {engine after : Engine} {toasts : List Toast} {rest : List Frame}
    (publishes : Publishes engine after toasts rest) :
    after.exits = (rest.filterMap Frame.parting?).map (fun toast => (toast.id, toast.edition)) ++
      engine.agenda.works.filterMap Deed.removal? := by
  simp [Engine.exits, publishes.frames, publishes.agenda, announcement, Frame.parting?,
    List.filterMap_cons]

theorem Publishes.exits_subset {engine after : Engine} {toasts : List Toast} {rest : List Frame}
    (publishes : Publishes engine after toasts rest)
    (idle : rest.filterMap Frame.parting? = engine.frames.filterMap Frame.parting?) :
    after.exits ⊆ engine.exits := by
  rw [publishes.exits, idle]
  exact List.Subset.refl _

theorem Leaves.orderly {engine after : Engine} {toast : Toast} {cause : Cause}
    (leaves : Leaves engine after toast cause) (orderly : Orderly engine) : Orderly after := by
  have publishes := leaves.publishes
  have member := Store.mem_of_get? leaves.found
  refine orderly.replaced leaves.found publishes.toasts rfl (.inr ⟨rfl, fun _ => rfl⟩)
    publishes.numbers (Nat.le_trans (orderly.numbered toast member) publishes.numbers) ?_
  intro exit under
  simp only [publishes.exits, List.filterMap_cons, Frame.parting?, List.map_cons,
    List.cons_append] at under
  rcases List.mem_cons.mp under with rfl | old
  · exact .inr ⟨rfl, rfl⟩
  · exact .inl old

theorem Shows.orderly {engine after : Engine} (shows : Shows engine after)
    (orderly : Orderly engine) : Orderly after := by
  cases shows with
  | revise toast revised options number found live made new publishes =>
      subst made
      exact orderly.replaced found publishes.toasts rfl (.inl new.1) publishes.numbers new.2
        fun exit under => .inl (publishes.exits_subset rfl under)
  | append toast options number made new publishes =>
      have edition : toast.edition = number := by rw [made]; rfl
      exact orderly.appended publishes.toasts (by omega) (by omega)
        (publishes.exits_subset rfl)

theorem Effect.orderly {engine after : Engine} (effect : Effect engine after)
    (orderly : Orderly engine) : Orderly after := by
  cases effect with
  | calm pushed outside steady toasts version countdowns agenda frames =>
      refine orderly.thinned (by rw [toasts]) steady.numbers ?_
      have idle : pushed.filterMap Frame.parting? = [] := by
        rw [List.filterMap_eq_nil_iff]
        intro frame member
        have out := outside frame member
        cases frame <;> first | rfl | simp [Frame.isOutside] at out
      have deeds : after.agenda.works.filterMap Deed.removal? ⊆
          engine.agenda.works.filterMap Deed.removal? := by
        rcases agenda with same | ⟨delay, ticket, same⟩
        · rw [same]
          exact List.Subset.refl _
        · rw [same]
          exact ((Agenda.works_spawn engine.agenda delay (.errand ticket)).filterMap _).subset
      simp only [exits, frames, List.filterMap_append, idle, List.nil_append]
      exact List.append_subset.mpr ⟨List.subset_append_left _ _,
        List.Subset.trans deeds (List.subset_append_right _ _)⟩
  | shows shows => exact shows.orderly orderly
  | leaves toast leaves => exact leaves.orderly orderly
  | clears position publishes =>
      exact orderly.thinned (publishes.toasts ▸ List.filter_sublist) publishes.numbers
        (publishes.exits_subset rfl)
  | spares position spared same =>
      subst same
      exact orderly.thinned (List.Sublist.refl _) (Nat.le_refl _)
        (by simp [exits, push, Frame.parting?, List.filterMap_cons])
  | paints toast painted found made publishes =>
      obtain ⟨lifecycle, _, rfl⟩ := Option.map_eq_some_iff.mp made
      have member := Store.mem_of_get? found
      exact orderly.replaced found publishes.toasts rfl (.inr ⟨rfl, id⟩) publishes.numbers
        (Nat.le_trans (orderly.numbered toast member) publishes.numbers)
        fun exit under => .inl (publishes.exits_subset rfl under)
  | pauses same =>
      subst same
      exact ⟨orderly.ids, orderly.editions, orderly.numbered, orderly.spent⟩
  | resumes same =>
      subst same
      exact orderly.thinned (List.Sublist.refl _) (Nat.le_refl _) (by
        simp [exits, Frame.parting?, keepVigils, Agenda.foldl_spawn, Agenda.works, Task.work,
          List.filterMap_cons, List.filterMap_map, Function.comp_def, Deed.removal?])

theorem callback_parting (hook : Option Hook) (call : Hook → Call) :
    (callback hook call).filterMap Frame.parting? = [] := by
  cases hook <;> rfl

theorem exits_takesUp {engine : Engine} {agenda : Agenda Deed} {outcome : Option Deed}
    (taken : engine.agenda.TakesUp agenda outcome) :
    { engine with agenda }.exits ⊆ engine.exits := by
  have kept := (taken.works.filterMap Deed.removal?).symm.subset
  simp only [List.filterMap_append] at kept
  exact List.append_subset.mpr ⟨List.subset_append_left _ _,
    List.Subset.trans (List.Subset.trans (List.subset_append_right _ _) kept)
      (List.subset_append_right _ _)⟩

theorem arm_exits (engine : Engine) (id : ToastId) (lifespan : Lifespan) :
    (engine.arm id lifespan).exits = engine.exits := by
  simp only [arm]
  split
  next => rfl
  next delay _ =>
      simp [exits, keepVigils, Agenda.foldl_spawn, Agenda.works, Task.work, List.filterMap_map,
        Function.comp_def, Deed.removal?]

theorem Move.orderly {engine after : Engine} {event : Event} (move : Move engine event after)
    (orderly : Orderly engine) : Orderly after := by
  -- Most strides leave the records alone and put no exit under way.
  have stays (frames : List Frame) (agenda : Agenda Deed)
      (countdowns : Countdowns ToastId Unit)
      (exits : { engine with frames, agenda, countdowns }.exits ⊆ engine.exits) :
      Orderly { engine with frames, agenda, countdowns } :=
    orderly.thinned (List.Sublist.refl _) (Nat.le_refl _) exits
  cases move with
  | request operation after answer turn effect =>
      exact effect.orderly (orderly.answering answer)
  | published version snapshot pending rest top served =>
      exact stays _ _ _ (by simp [exits, top, Frame.parting?, List.filterMap_cons])
  | deliver version snapshot listener pending rest top current =>
      exact stays _ _ _ (by simp [exits, top, Frame.parting?, List.filterMap_cons])
  | arm id lifespan rest top =>
      have exits := arm_exits { engine with frames := rest } id lifespan
      obtain ⟨countdowns, agenda, shape⟩ := arm_shape { engine with frames := rest } id lifespan
      rw [shape] at exits ⊢
      refine stays _ _ _ (exits ▸ ?_)
      simp [Engine.exits, top, Frame.parting?, List.filterMap_cons]
  | leave toast cause rest top =>
      refine stays _ _ _ ?_
      cases cause <;>
        simp [exits, top, Frame.parting?, callback_parting]
  | farewell toast rest top =>
      exact stays _ _ _ (by
        simp [exits, top, Frame.parting?, callback_parting])
  | exitWindow toast rest top =>
      refine stays _ _ _ ?_
      have spawned := (Agenda.works_spawn engine.agenda engine.settings.exitWindow
        (.remove toast.id toast.edition)).filterMap Deed.removal?
      simp only [exits, top, Frame.parting?, List.filterMap_cons, Deed.removal?, List.map_cons,
        List.cons_append] at spawned ⊢
      refine List.append_subset.mpr ⟨?_, List.Subset.trans spawned.subset ?_⟩
      · exact List.Subset.trans (List.subset_append_left _ _) (List.subset_cons_self _ _)
      · exact List.cons_subset_cons _ (List.subset_append_right _ _)
  | disarm ids rest top =>
      obtain ⟨countdowns, shape⟩ := disarm_shape { engine with frames := rest } ids
      rw [shape]
      exact stays _ _ _ (by simp [exits, top, Frame.parting?, List.filterMap_cons])
  | dueDone rest top =>
      exact stays _ _ _ (by simp [exits, top, Frame.parting?, List.filterMap_cons])
  | dueGone id ids rest top gone =>
      exact stays _ _ _ (by simp [exits, top, Frame.parting?, List.filterMap_cons])
  | due toast ids rest after top leaves =>
      exact leaves.orderly (stays _ _ _ (by simp [exits, top, Frame.parting?, List.filterMap_cons]))
  | handBack frame rest top idle =>
      exact stays _ _ _ (by
        cases frame <;> simp [exits, top, Frame.parting?, List.filterMap_cons])
  | waits place agenda idle taken => exact stays _ _ _ (exits_takesUp taken)
  | stale place agenda deed idle taken gone => exact stays _ _ _ (exits_takesUp taken)
  | expireGone place agenda id generation countdowns countdown idle taken expired gone =>
      exact stays _ _ _ (exits_takesUp taken)
  | expire place agenda toast generation countdowns countdown after idle taken expired leaves =>
      exact leaves.orderly (stays _ _ _ (exits_takesUp taken))
  | remove place agenda id edition after idle taken publishes =>
      refine orderly.thinned (publishes.toasts ▸ List.filter_sublist) publishes.numbers ?_
      have less := publishes.exits_subset (by simp [idle])
      exact fun exit under => exits_takesUp taken (less under)
  | errand place agenda ticket idle taken =>
      refine stays _ _ _ ?_
      have less := exits_takesUp taken
      simpa [exits, idle, Frame.parting?, List.filterMap_cons] using less
  | pass moment idle later =>
      refine stays _ _ _ ?_
      have same := (Agenda.works_advance engine.agenda moment).filterMap Deed.removal?
      exact List.append_subset.mpr ⟨List.subset_append_left _ _,
        List.Subset.trans same.subset (List.subset_append_right _ _)⟩

/-- What every move keeps while the records are in order holds throughout a managed run. -/
theorem Run.kept {start finish : Engine} (run : Run start finish) (holds : Engine → Prop)
    (managed : run.Managed) (orderly : Orderly start) (first : holds start)
    (keeps : ∀ {engine after event}, Move engine event after → Orderly engine → holds engine →
      holds after) : Orderly finish ∧ holds finish := by
  induction run with
  | start => exact ⟨orderly, first⟩
  | next run event stride ih =>
      obtain ⟨tidy, held⟩ := ih managed.1
      have move := stride.move managed.2
      exact ⟨move.orderly tidy, keeps move tidy held⟩

theorem Run.orderly {settings : Settings} {defaults : Defaults} {now : Nat} {finish : Engine}
    (run : Run (fresh settings defaults now) finish) (managed : run.Managed) : Orderly finish :=
  run.invariant (fresh_orderly settings defaults now)
    (fun stride managed orderly => (stride.move managed).orderly orderly) managed

end Engine

end Toasts
