import Toasts.Proofs.Removals
import Toasts.Proofs.Upshots

/-!
Countdowns that end together. The dismissals of a resumption are made in the order in which the
countdowns happen to be handed out, and waits that are over are taken up in the order in which they
happen to be ready. Whatever the order is, the same records begin their exit, the same countdowns
are left, the same removals are under way, and the same callbacks are called for the same records.
-/

namespace Toasts

def Toast.lapsed (ids : List ToastId) (toast : Toast) : Toast :=
  if toast.isLive && decide (toast.id ∈ ids) then toast.leave else toast

def Toast.exitTask (window : Span) (toast : Toast) : Task Deed :=
  .start window (.remove toast.id toast.edition)

def Task.waking (vigil : ToastId × Nat) : Task Deed := .resume (.expire vigil.1 vigil.2)

theorem Toast.lapsed_lapsed (first second : List ToastId) (toast : Toast) :
    (toast.lapsed first).lapsed second = toast.lapsed (first ++ second) := by
  cases live : toast.isLive with
  | false => simp [lapsed, live]
  | true =>
      by_cases among : toast.id ∈ first
      · have gone : toast.leave.isLive = false := rfl
        simp [lapsed, live, among, gone]
      · simp [lapsed, live, among]

theorem Toast.lapsed_id (ids : List ToastId) (toast : Toast) :
    (toast.lapsed ids).id = toast.id := by
  rw [lapsed]
  split <;> rfl

namespace Engine

variable {engine middle after : Engine} {ids first second : List ToastId}
  {taken : List (Task Deed)} {said : List Call}

/-- The records that begin their exit when these countdowns end. -/
def doomed (engine : Engine) (ids : List ToastId) : List Toast :=
  engine.store.toasts.filter fun toast => toast.isLive && decide (toast.id ∈ ids)

/-- The engine once these countdowns have ended and these tasks are ready. -/
def lapsed (engine : Engine) (ids : List ToastId) (ready : List (Task Deed)) : Engine :=
  { engine with
    store := { engine.store with
      toasts := engine.store.toasts.map (·.lapsed ids)
      version := engine.store.version + (engine.doomed ids).length }
    countdowns := { engine.countdowns with
      entries := engine.countdowns.entries.filter (·.key ∉ ids) }
    agenda := { engine.agenda with ready } }

structure Lapsed (engine : Engine) (ids : List ToastId) (taken : List (Task Deed)) (after : Engine)
    (said : List Call) : Prop where
  state : after.bare = (engine.lapsed ids after.agenda.ready).bare
  ready : (after.agenda.ready ++ taken).Perm
    (engine.agenda.ready ++ (engine.doomed ids).map (·.exitTask engine.settings.exitWindow))
  said : said.Perm ((engine.doomed ids).flatMap (·.lastCalls .countdown))

theorem doomed_nil (engine : Engine) : engine.doomed [] = [] := by simp [doomed]

theorem lapsed_nil {ready : List (Task Deed)} (chosen : engine.agenda.ready.Perm (taken ++ ready)) :
    Lapsed engine [] taken { engine with agenda := { engine.agenda with ready } } [] := by
  constructor
  · simp [lapsed, bare, doomed_nil, Toast.lapsed]
  · simpa [doomed_nil] using (chosen.trans List.perm_append_comm).symm
  · simp [doomed_nil]

theorem Lapsed.of_bare (lapsed : Lapsed engine.bare ids taken middle said)
    (same : after.bare = middle.bare) : Lapsed engine ids taken after said := by
  have agenda : after.agenda = middle.agenda := (congrArg (·.agenda) same :)
  constructor
  · rw [same, agenda]
    exact lapsed.state
  · rw [agenda]
    exact lapsed.ready
  · exact lapsed.said

theorem doomed_lapsed (toasts : middle.store.toasts = engine.store.toasts.map (·.lapsed first)) :
    middle.doomed second =
      (engine.doomed (first ++ second)).filter fun toast => !decide (toast.id ∈ first) := by
  -- A record that is live after the first countdowns have ended is as it was before.
  have same (toast : Toast) (live : (toast.lapsed first).isLive = true) :
      toast.lapsed first = toast := by
    by_cases ends : (toast.isLive && decide (toast.id ∈ first)) = true
    · rw [Toast.lapsed, if_pos ends] at live
      cases live
    · rw [Toast.lapsed, if_neg ends]
  rw [doomed, toasts, List.filter_map, doomed, List.filter_filter]
  have stays : ∀ toast ∈ engine.store.toasts.filter
      ((fun toast => toast.isLive && decide (toast.id ∈ second)) ∘ (·.lapsed first)),
      toast.lapsed first = toast := by
    intro toast member
    have picked := (List.mem_filter.mp member).2
    exact same toast (Bool.and_eq_true_iff.mp picked).1
  rw [List.map_congr_left stays, List.map_id']
  refine List.filter_congr fun toast _ => ?_
  cases live : toast.isLive with
  | false => simp [Toast.lapsed, live]
  | true =>
      by_cases among : toast.id ∈ first
      · have gone : toast.leave.isLive = false := rfl
        simp [Toast.lapsed, live, among, gone]
      · simp [Toast.lapsed, live, among]

theorem doomed_append (second : List ToastId)
    (toasts : middle.store.toasts = engine.store.toasts.map (·.lapsed first)) :
    (engine.doomed first ++ middle.doomed second).Perm (engine.doomed (first ++ second)) := by
  have split := List.filter_append_perm (fun toast : Toast => decide (toast.id ∈ first))
    (engine.doomed (first ++ second))
  have here : (engine.doomed (first ++ second)).filter (fun toast => decide (toast.id ∈ first)) =
      engine.doomed first := by
    rw [doomed, doomed, List.filter_filter]
    refine List.filter_congr fun toast _ => ?_
    by_cases among : toast.id ∈ first <;> simp [among]
  rwa [here, ← doomed_lapsed toasts] at split

theorem lapsed_lapsed (engine : Engine) (first second : List ToastId)
    (ready later : List (Task Deed)) :
    (engine.lapsed first ready).lapsed second later = engine.lapsed (first ++ second) later := by
  have toasts : (engine.lapsed first ready).store.toasts =
      engine.store.toasts.map (·.lapsed first) := rfl
  have count := (doomed_append second toasts).length_eq
  rw [List.length_append] at count
  have records : (engine.store.toasts.map (·.lapsed first)).map (·.lapsed second) =
      engine.store.toasts.map (·.lapsed (first ++ second)) := by
    rw [List.map_map]
    exact List.map_congr_left fun toast _ => toast.lapsed_lapsed first second
  have entries : (engine.countdowns.entries.filter (·.key ∉ first)).filter (·.key ∉ second) =
      engine.countdowns.entries.filter (·.key ∉ first ++ second) := by
    rw [List.filter_filter]
    exact List.filter_congr fun countdown _ => by simp [Bool.and_comm]
  have version : (engine.lapsed first ready).store.version +
      ((engine.lapsed first ready).doomed second).length =
        engine.store.version + (engine.doomed (first ++ second)).length := by
    rw [← count, ← Nat.add_assoc]
    rfl
  rw [lapsed, version, lapsed, records, entries]
  rfl

theorem Lapsed.trans {later : List (Task Deed)} {more : List Call}
    (one : Lapsed engine first taken middle said) (two : Lapsed middle second later after more) :
    Lapsed engine (first ++ second) (taken ++ later) after (said ++ more) := by
  have toasts : middle.store.toasts = engine.store.toasts.map (·.lapsed first) :=
    congrArg (·.store.toasts) one.state
  have settings : middle.settings = engine.settings := (congrArg Engine.settings one.state :)
  have doomed := doomed_append second toasts
  constructor
  · calc after.bare
      _ = (middle.bare.lapsed second after.agenda.ready).bare := two.state
      _ = ((engine.lapsed first middle.agenda.ready).lapsed second after.agenda.ready).bare := by
          rw [one.state]
          rfl
      _ = (engine.lapsed (first ++ second) after.agenda.ready).bare := by rw [lapsed_lapsed]
  · have exits := doomed.map (·.exitTask engine.settings.exitWindow)
    rw [List.map_append] at exits
    have last := two.ready
    rw [settings] at last
    -- The tasks taken up first are ready until then.
    calc
      List.Perm _ ((after.agenda.ready ++ later) ++ taken) := by
        rw [List.append_assoc]
        exact List.perm_append_comm.append_left _
      List.Perm _ ((middle.agenda.ready ++ taken) ++
          (middle.doomed second).map (·.exitTask engine.settings.exitWindow)) := by
        refine (last.append_right taken).trans ?_
        rw [List.append_assoc, List.append_assoc]
        exact List.perm_append_comm.append_left _
      List.Perm _ (engine.agenda.ready ++
          (engine.doomed (first ++ second)).map (·.exitTask engine.settings.exitWindow)) := by
        refine (one.ready.append_right _).trans ?_
        rw [List.append_assoc]
        exact exits.append_left _
  · have both := one.said.append two.said
    rw [← List.flatMap_append] at both
    exact both.trans (doomed.flatMap_right _)

/-- Only which countdowns end matters, not how often or in which order they are named. -/
theorem Lapsed.congr (lapsed : Lapsed engine first taken after said)
    (same : ∀ id, id ∈ first ↔ id ∈ second) : Lapsed engine second taken after said := by
  have doomed : engine.doomed first = engine.doomed second := by
    simp only [Engine.doomed, same]
  have state (ready : List (Task Deed)) :
      engine.lapsed first ready = engine.lapsed second ready := by
    simp only [Engine.lapsed, Toast.lapsed, doomed, same]
  constructor
  · rw [← state]
    exact lapsed.state
  · rw [← doomed]
    exact lapsed.ready
  · rw [← doomed]
    exact lapsed.said

theorem doomed_single (distinct : (engine.store.toasts.map (·.id)).Nodup) (id : ToastId) :
    engine.doomed [id] = (engine.live? id).toList := by
  have split : engine.doomed [id] =
      (engine.store.toasts.filter (·.id = id)).filter (·.isLive) := by
    rw [doomed, List.filter_filter]
    exact List.filter_congr fun toast _ => by simp
  rw [split]
  cases found : engine.get? id with
  | none =>
      have none : engine.store.toasts.filter (·.id = id) = [] :=
        List.filter_eq_nil_iff.mpr (List.find?_eq_none.mp found)
      simp [none, live?, found]
  | some toast =>
      have one := filter_of_distinct Toast.id distinct (Store.mem_of_get? found)
      rw [Store.id_of_get? found] at one
      rw [one, live?, found]
      cases live : toast.isLive <;> simp [Option.filter, live]

theorem toasts_lapse (distinct : (engine.store.toasts.map (·.id)).Nodup) (id : ToastId) :
    (engine.lapse id).store.toasts = engine.store.toasts.map (·.lapsed [id]) := by
  have others {toasts : List Toast} (apart : ∀ toast ∈ toasts, toast.id ≠ id) :
      toasts.map (·.lapsed [id]) = toasts := by
    refine (List.map_congr_left fun toast member => ?_).trans (List.map_id' toasts)
    rw [Toast.lapsed, if_neg (by simp [apart toast member])]
  cases live : engine.live? id with
  | none =>
      have none := doomed_single distinct id
      rw [live, Option.toList_none, doomed, List.filter_eq_nil_iff] at none
      rw [lapse_none live]
      refine ((List.map_congr_left fun toast member => ?_).trans (List.map_id' _)).symm
      rw [Toast.lapsed, if_neg (none toast member)]
  | some toast =>
      obtain ⟨found, lives⟩ := Option.filter_eq_some_iff.mp live
      obtain ⟨before, after, split, same, earlier, replaced⟩ := Store.find?_split found
      have later : ∀ other ∈ after, other.id ≠ id := by
        intro other member hit
        rw [split, List.map_append, List.map_cons, List.nodup_append, List.nodup_cons] at distinct
        exact distinct.2.1.1 (List.mem_map.mpr ⟨other, member, hit.trans same.symm⟩)
      have leaves : toast.lapsed [id] = toast.leave := by
        rw [Toast.lapsed, if_pos (by simp [lives, same])]
      rw [split, List.map_append, List.map_cons, others earlier, others later, leaves,
        lapse_some live]
      exact replaced toast.leave

theorem lapsed_single (distinct : (engine.store.toasts.map (·.id)).Nodup) (id : ToastId)
    {ready : List (Task Deed)} (chosen : engine.agenda.ready.Perm (taken ++ ready))
    (ends : middle = { engine with
      countdowns := engine.countdowns.cancel id, agenda := { engine.agenda with ready } }) :
    Lapsed engine [id] taken (middle.lapse id) (middle.lapseCalls [id]) := by
  have same : middle.live? id = engine.live? id := by
    rw [ends]
    rfl
  have doomed := doomed_single distinct id
  have toasts := toasts_lapse distinct id
  have left := chosen.trans List.perm_append_comm
  have cancel : engine.countdowns.cancel id = { engine.countdowns with
      entries := engine.countdowns.entries.filter (·.key ∉ [id]) } :=
    Countdowns.cancel_each [id] engine.countdowns
  cases live : engine.live? id with
  | none =>
      rw [live] at same doomed
      rw [lapse_none live] at toasts
      rw [lapse_none same]
      constructor
      · rw [lapsed, ← toasts, doomed, ends, cancel]
        rfl
      · rw [doomed]
        simpa [ends] using left.symm
      · simp [doomed, lapseCalls, same]
  | some toast =>
      rw [live] at same doomed
      rw [lapse_some live] at toasts
      rw [lapse_some same]
      have named : toast.id = id := Store.id_of_get? (Option.filter_eq_some_iff.mp live).1
      have again : (engine.countdowns.cancel id).cancel toast.id = { engine.countdowns with
          entries := engine.countdowns.entries.filter (·.key ∉ [id]) } := by
        rw [← cancel, named]
        simp [Countdowns.cancel]
      constructor
      · rw [lapsed, ← toasts, doomed, ← again, ends]
        rfl
      · have exit := left.symm.append_right [toast.exitTask engine.settings.exitWindow]
        rw [List.append_assoc] at exit
        have last : ((ready ++ [toast.exitTask engine.settings.exitWindow]) ++ taken).Perm
            (engine.agenda.ready ++ [toast.exitTask engine.settings.exitWindow]) := by
          rw [List.append_assoc]
          exact (List.perm_append_comm.append_left ready).trans exit
        rw [doomed, ends]
        exact last
      · simp [doomed, lapseCalls, same]

theorem Lapsed.distinct (lapsed : Lapsed engine ids taken after said)
    (distinct : (engine.store.toasts.map (·.id)).Nodup) :
    (after.store.toasts.map (·.id)).Nodup := by
  have toasts : after.store.toasts = engine.store.toasts.map (·.lapsed ids) :=
    congrArg (·.store.toasts) lapsed.state
  have same : after.store.toasts.map (·.id) = engine.store.toasts.map (·.id) := by
    rw [toasts, List.map_map]
    exact List.map_congr_left fun toast _ => toast.lapsed_id ids
  rwa [same]

theorem Lapsed.countdowns (lapsed : Lapsed engine ids taken after said) :
    after.countdowns = ids.foldl Countdowns.cancel engine.countdowns := by
  rw [Countdowns.cancel_each]
  exact congrArg (·.countdowns) lapsed.state

theorem lapsed_each (distinct : (engine.store.toasts.map (·.id)).Nodup)
    (unheld : ∀ id ∈ ids, engine.countdowns.has id = false) :
    Lapsed engine ids [] (ids.foldl lapse engine) (engine.lapseCalls ids) := by
  induction ids generalizing engine with
  | nil => exact lapsed_nil (List.Perm.refl _)
  | cons id ids ih =>
      have one : Lapsed engine [id] [] (engine.lapse id) (engine.lapseCalls [id]) := by
        refine lapsed_single distinct id (List.Perm.refl _) ?_
        rw [Countdowns.cancel_unheld (unheld id List.mem_cons_self)]
      have still : ∀ other ∈ ids, (engine.lapse id).countdowns.has other = false := by
        intro other member
        have none := unheld other (List.mem_cons_of_mem id member)
        rw [one.countdowns, Countdowns.has_cancel_each, none, Bool.and_false]
      rw [List.foldl_cons, lapseCalls_cons]
      exact one.trans (ih (one.distinct distinct) still)

/-- Two engines that differ at most in the order of the tasks that are ready. -/
structure Agree (one other : Engine) : Prop where
  toasts : other.store.toasts = one.store.toasts
  countdowns : other.countdowns = one.countdowns
  remaining : ∀ id, other.remaining? id = one.remaining? id
  ready : other.agenda.ready.Perm one.agenda.ready
  removals : other.removals.Perm one.removals
  others : other = { one with agenda := { one.agenda with ready := other.agenda.ready } }

theorem Lapsed.agree {one other : Engine} {later : List (Task Deed)}
    (lapsed : Lapsed engine ids taken one said) {more : List Call}
    (again : Lapsed engine ids later other more) (same : later.Perm taken)
    (frames : other.frames = one.frames) : Agree one other ∧ more.Perm said := by
  have ready : other.agenda.ready.Perm one.agenda.ready := by
    have both := again.ready.trans lapsed.ready.symm
    exact (List.perm_append_right_iff later).mp (both.trans (same.symm.append_left _))
  have others : other = { one with agenda := { one.agenda with ready := other.agenda.ready } } := by
    have left := again.state
    have right := congrArg
      (fun engine : Engine => { engine with
        agenda := { engine.agenda with ready := other.agenda.ready }, frames := one.frames })
      lapsed.state
    calc other
      _ = { other.bare with frames := other.frames } := rfl
      _ = { engine.lapsed ids other.agenda.ready with frames := one.frames } := by
          rw [left, frames]
          rfl
      _ = { one with agenda := { one.agenda with ready := other.agenda.ready } } := right.symm
  refine ⟨?_, again.said.trans lapsed.said.symm⟩
  constructor
  · rw [others]
  · rw [others]
  · intro id
    rw [others]
    rfl
  · exact ready
  · have endings : { one.agenda with ready := other.agenda.ready }.endings.Perm
        one.agenda.endings := (ready.map (Task.ending one.agenda.now)).append_right _
    rw [others]
    exact removals_perm [] rfl rfl rfl (endings.filterMap _)
  · exact others

/-- In whatever order these are taken up, it comes to an end, and always to the same: the records of
these countdowns that were live begin their exit, each in its place, their countdowns are gone, and
the callbacks of each are called once, with the record as it was before. -/
structure AnyOrder {Item : Type} (engine : Engine) (items : List Item) (ids : List ToastId)
    (ends : List Item → List Call → Engine → Prop) : Prop where
  finish : ∀ order : List Item, order.Perm items → ∃ said after, ends order said after
  left : ∀ order said after, order.Perm items → ends order said after →
    after.store.toasts = engine.store.toasts.map (·.lapsed ids) ∧
      after.countdowns = ids.foldl Countdowns.cancel engine.countdowns ∧
      said.Perm ((engine.doomed ids).flatMap (·.lastCalls .countdown))
  same : ∀ order said after again more other, order.Perm items → ends order said after →
    again.Perm items → ends again more other → Agree after other ∧ more.Perm said

theorem anyOrder {Item : Type} {items : List Item}
    {ends : List Item → List Call → Engine → Prop} (below : List Frame)
    (taken : List Item → List (Task Deed))
    (perm : ∀ order again : List Item, order.Perm again → (taken order).Perm (taken again))
    (finish : ∀ order : List Item, order.Perm items → ∃ said after, ends order said after)
    (lapsed : ∀ order said after, order.Perm items → ends order said after →
      after.frames = below ∧ Lapsed engine ids (taken order) after said) :
    AnyOrder engine items ids ends := by
  constructor
  · exact finish
  · intro order said after sorts ended
    have lapsed := (lapsed order said after sorts ended).2
    exact ⟨congrArg (·.store.toasts) lapsed.state, lapsed.countdowns, lapsed.said⟩
  · intro order said after again more other sorts ended resorts finished
    obtain ⟨frames, one⟩ := lapsed order said after sorts ended
    obtain ⟨frames', two⟩ := lapsed again more other resorts finished
    exact one.agree two (perm again order (resorts.trans sorts.symm)) (frames'.trans frames.symm)

def Dismisses (engine : Engine) (below : List Frame) (order : List ToastId) (said : List Call)
    (after : Engine) : Prop :=
  ∃ call : Run { engine with frames := .due order :: below } after,
    call.Returns below ∧ call.goodbyes.map Goodbye.call = said

/-- Countdowns that a resumption hands out are dismissed in any order to the same end. -/
theorem dismisses_anyOrder (distinct : (engine.store.toasts.map (·.id)).Nodup)
    (unheld : ∀ id ∈ ids, engine.countdowns.has id = false) (below : List Frame) :
    AnyOrder engine ids ids (engine.Dismisses below) := by
  refine anyOrder below (fun _ => []) (fun _ _ _ => List.Perm.refl []) ?_ ?_
  · intro order sorts
    have quiet : Run.Quiet below (.start : Run { engine with frames := [.due order] ++ below } _) :=
      trivial
    obtain ⟨after, call, returns⟩ := quiet.ends rfl
    exact ⟨_, after, call, returns, rfl⟩
  · rintro order said after sorts ⟨call, returns, rfl⟩
    have each : Lapsed engine.bare order [] _ _ :=
      lapsed_each distinct fun id member => unheld id (sorts.subset member)
    have frames : { engine with frames := .due order :: below }.frames =
        [.due order] ++ below := rfl
    obtain ⟨_, upshot, calls⟩ := returns.upshot frames rfl
    have said : call.goodbyes.map Goodbye.call = engine.bare.lapseCalls order :=
      calls.trans (List.append_nil _)
    refine ⟨returns.2, ?_⟩
    rw [said, upshot]
    exact Lapsed.congr (each.of_bare rfl) fun id => sorts.mem_iff

def woken (engine : Engine) (vigils : List (ToastId × Nat)) : List ToastId :=
  (vigils.filter fun vigil => (engine.countdowns.expire? vigil.1 vigil.2).isSome).map Prod.fst

/-- These waits are over and are taken up one after the other, each from wherever it stands among
the ready tasks; what comes of one is done before the next, and nobody asks for anything. -/
inductive Wakes : Engine → List (ToastId × Nat) → List Call → Engine → Prop where
  | done (engine : Engine) : Wakes engine [] [] engine
  | next {engine taken finish last : Engine} {vigil : ToastId × Nat}
      {vigils : List (ToastId × Nat)} {said : List Call} (place : Nat)
      (ready : engine.agenda.ready[place]? = some (.waking vigil))
      (stride : Stride engine (.poll place) taken) (call : Run taken finish)
      (returns : call.Returns []) (rest : Wakes finish vigils said last) :
      Wakes engine (vigil :: vigils)
        (((engine.goodbye? taken).toList ++ call.goodbyes).map Goodbye.call ++ said) last

theorem woken_lapsed (ended : middle.countdowns = ids.foldl Countdowns.cancel engine.countdowns)
    (vigils : List (ToastId × Nat)) :
    middle.woken vigils = (engine.woken vigils).filter (· ∉ ids) := by
  have each (vigil : ToastId × Nat) : (middle.countdowns.expire? vigil.1 vigil.2).isSome =
      (decide (vigil.1 ∉ ids) && (engine.countdowns.expire? vigil.1 vigil.2).isSome) := by
    have look := Countdowns.get?_cancel_each ids engine.countdowns vigil.1
    have paused : middle.countdowns.paused = engine.countdowns.paused := by
      rw [ended, Countdowns.cancel_each]
    rw [← ended] at look
    rw [Countdowns.isSome_expire?, Countdowns.isSome_expire?, look, paused]
    by_cases among : vigil.1 ∈ ids <;> simp [among]
  rw [woken, woken, List.filter_map, List.filter_filter]
  simp only [each]
  rfl

theorem pollAt?_waking {place : Nat} {vigil : ToastId × Nat}
    (ready : engine.agenda.ready[place]? = some (.waking vigil)) :
    engine.pollAt? place = some ({ engine with
      agenda := { engine.agenda with ready := engine.agenda.ready.eraseIdx place } }.act
        (.expire vigil.1 vigil.2)) := by
  simp [pollAt?, poll?, Agenda.bringForward, Agenda.next?, ready, Task.waking]

theorem expire_lapsed (idle : engine.frames = [])
    (distinct : (engine.store.toasts.map (·.id)).Nodup) (vigil : ToastId × Nat)
    {ready : List (Task Deed)} (chosen : engine.agenda.ready.Perm (taken ++ ready))
    (acts : middle = { engine with agenda := { engine.agenda with ready } }.act
      (.expire vigil.1 vigil.2)) : ∃ pushed, middle.frames = pushed ++ engine.frames ∧
    Lapsed engine (engine.woken [vigil]) taken (middle.bare.upshot pushed)
      (middle.bare.calls pushed) ∧ engine.begun? middle = none := by
  have silent : engine.frames.head?.bind Frame.call? = none := by simp [idle]
  have bare : engine.bare.agenda.ready.Perm (taken ++ ready) := chosen
  have unlike : (engine.bare.store.toasts.map (·.id)).Nodup := distinct
  cases expired : engine.countdowns.expire? vigil.1 vigil.2 with
  | none =>
      have nothing : engine.woken [vigil] = [] := by simp [woken, expired]
      have same : middle = { engine with agenda := { engine.agenda with ready } } := by
        simp [acts, act, expired]
      rw [nothing, same]
      exact ⟨[], rfl, (lapsed_nil bare).of_bare rfl, begun?_of_head silent⟩
  | some ended =>
      have one : engine.woken [vigil] = [vigil.1] := by simp [woken, expired]
      obtain ⟨_, _, _, cancelled⟩ := Countdowns.expire?_some expired
      have same : middle = _ := acts
      simp only [act, expired, cancelled] at same
      obtain ⟨pushed, frames, upshot, calls, mute⟩ := dismiss?_upshot { engine with
        countdowns := engine.countdowns.cancel vigil.1
        agenda := { engine.agenda with ready } } vigil.1
      rw [← same] at frames upshot calls mute
      rw [one]
      refine ⟨pushed, frames, ?_, mute silent engine⟩
      rw [upshot, calls]
      exact (lapsed_single unlike vigil.1 bare rfl).of_bare rfl

theorem Stride.woken {place : Nat} {vigil : ToastId × Nat} {finish : Engine}
    (stride : Stride engine (.poll place) middle)
    (ready : engine.agenda.ready[place]? = some (.waking vigil))
    (distinct : (engine.store.toasts.map (·.id)).Nodup) (call : Run middle finish)
    (returns : call.Returns []) : Lapsed engine (engine.woken [vigil]) [.waking vigil] finish
      (((engine.goodbye? middle).toList ++ call.goodbyes).map Goodbye.call) := by
  have chosen := Agenda.perm_bringForward engine.agenda.ready place
  rw [ready] at chosen
  cases stride with
  | poll place after idle polled =>
      have acts := Option.some.inj ((pollAt?_waking ready).symm.trans polled)
      obtain ⟨pushed, frames, lapsed, silent⟩ := expire_lapsed idle distinct vigil chosen acts.symm
      rw [idle] at frames
      obtain ⟨_, upshot, calls⟩ := returns.upshot frames rfl
      rw [goodbye?_silent silent]
      have ended : finish.bare = (middle.bare.upshot pushed).bare := by rw [upshot]; rfl
      have said : call.goodbyes.map Goodbye.call = _ := calls
      rw [Option.toList_none, List.nil_append, said]
      exact Lapsed.of_bare ⟨lapsed.state, lapsed.ready, lapsed.said⟩ ended

theorem Wakes.lapsed {vigils : List (ToastId × Nat)} (wakes : Wakes engine vigils said after)
    (idle : engine.frames = []) (distinct : (engine.store.toasts.map (·.id)).Nodup) :
    after.frames = [] ∧ Lapsed engine (engine.woken vigils) (vigils.map .waking) after said := by
  induction wakes with
  | done engine => exact ⟨idle, lapsed_nil (List.Perm.refl _)⟩
  | @next engine taken finish last vigil vigils said place ready stride call returns rest ih =>
      have one := stride.woken ready distinct call returns
      obtain ⟨level, more⟩ := ih returns.2 (one.distinct distinct)
      have split : engine.woken (vigil :: vigils) =
          engine.woken [vigil] ++ engine.woken vigils := by
        rw [woken, woken, woken, ← List.map_append, ← List.filter_append]
        rfl
      refine ⟨level, (one.trans more).congr fun id => ?_⟩
      -- A countdown that has ended is not waited for any more.
      rw [split, woken_lapsed one.countdowns, List.mem_append, List.mem_append, List.mem_filter]
      by_cases among : id ∈ engine.woken [vigil] <;> simp [among]

theorem wakes_exist {vigils : List (ToastId × Nat)} {others : List (Task Deed)}
    (idle : engine.frames = []) (distinct : (engine.store.toasts.map (·.id)).Nodup)
    (ready : engine.agenda.ready.Perm (vigils.map .waking ++ others)) :
    ∃ said after, Wakes engine vigils said after := by
  induction vigils generalizing engine others with
  | nil => exact ⟨[], engine, .done engine⟩
  | cons vigil vigils ih =>
      obtain ⟨place, found⟩ := List.mem_iff_getElem?.mp (ready.mem_iff.mpr List.mem_cons_self)
      have stride : Stride engine (.poll place) _ := .poll place _ idle (pollAt?_waking found)
      have quiet : Run.Quiet [] (.start : Run ({ engine with
        agenda := { engine.agenda with ready := engine.agenda.ready.eraseIdx place } }.act
          (.expire vigil.1 vigil.2)) _) := trivial
      obtain ⟨finish, call, returns⟩ := quiet.ends (List.append_nil _).symm
      have one := stride.woken found distinct call returns
      have left : finish.agenda.ready.Perm (vigils.map .waking ++ (others ++
          (engine.doomed (engine.woken [vigil])).map (·.exitTask engine.settings.exitWindow))) := by
        have both := one.ready.trans (ready.append_right _)
        rw [List.map_cons, List.cons_append, List.cons_append, List.append_assoc] at both
        exact (List.perm_cons _).mp ((List.perm_append_singleton _ _).symm.trans both)
      obtain ⟨said, after, rest⟩ := ih returns.2 (one.distinct distinct) left
      exact ⟨_, after, .next place found stride call returns rest⟩

/-- Waits that are over are taken up in any order to the same end. -/
theorem wakes_anyOrder {vigils : List (ToastId × Nat)} {others : List (Task Deed)}
    (idle : engine.frames = []) (distinct : (engine.store.toasts.map (·.id)).Nodup)
    (ready : engine.agenda.ready.Perm (vigils.map .waking ++ others)) :
    AnyOrder engine vigils (engine.woken vigils) engine.Wakes := by
  refine anyOrder [] (·.map .waking) (fun _ _ same => same.map _) ?_ ?_
  · intro order sorts
    exact wakes_exist idle distinct (ready.trans ((sorts.symm.map _).append_right others))
  · intro order said after sorts wakes
    obtain ⟨level, lapsed⟩ := wakes.lapsed idle distinct
    have same : (engine.woken order).Perm (engine.woken vigils) := (sorts.filter _).map _
    exact ⟨level, lapsed.congr fun id => same.mem_iff⟩

namespace Run

variable {settings : Settings} {defaults : Defaults} {now : Nat} {before : Engine}

/-- Countdowns that are due together may end in any order. In every run of an engine: the dismissals
that a resumption is to make, and the waits that are over at one moment, whatever else is ready,
come to an end in every order, while listeners and callbacks ask for nothing. Whatever the order,
the records are the same in the same places, the same is left of the same countdowns, the same
removals are under way, and for each record that was live both callbacks have been called once, with
the record as it was before. The resumption itself begins no call, and in no run does a call escape
the count: what is handed back and what is under way has begun, or was under way at the start, and
the goodbyes are all the calls of callbacks of toasts that go. -/
theorem lapses_in_any_order (run : Run (fresh settings defaults now) before)
    (managed : run.Managed) :
    (∀ after, Stride before (.request .resume) after → before.begun? after = none ∧
      ∃ ids, ids = (before.countdowns.resume before.now).due.map (·.key) ∧
        after.frames = .due ids :: .returned .done :: before.frames ∧
        AnyOrder after ids ids (after.Dismisses (.returned .done :: before.frames))) ∧
    (∀ vigils others, before.frames = [] →
      before.agenda.ready.Perm (vigils.map .waking ++ others) →
      AnyOrder before vigils (before.woken vigils) before.Wakes) ∧
    ∀ {first last} (call : Run first last),
      (call.callsEnded ++ last.underWay).Perm (call.callsBegun ++ first.underWay) ∧
      call.goodbyes.map Goodbye.call = call.callsBegun.filter (·.parted?.isSome) := by
  have orderly := run.orderly managed
  have watched : OnWatch False before := run.onWatch managed False.elim
  refine ⟨?_, ?_, fun call => ⟨call.calls_add_up, call.goodbyes_begun⟩⟩
  · intro after stride
    cases stride with
    | request operation turn =>
        have distinct : ((before.request .resume).store.toasts.map (·.id)).Nodup := orderly.ids
        have unheld : ∀ id ∈ (before.countdowns.resume before.now).due.map (·.key),
            (before.request .resume).countdowns.has id = false :=
          fun id due => Countdowns.unheld_due watched.distinct due
        exact ⟨begun?_of_head rfl, _, rfl, rfl, dismisses_anyOrder distinct unheld _⟩
  · intro vigils others idle ready
    exact wakes_anyOrder idle orderly.ids ready

/-- Two toasts with both callbacks are shown, and the time of both countdowns passes. -/
def together : Σ finish, Run (fresh {} {} 0) finish :=
  (Run.start.extend? [
    .request (.present { id := some (.named "x"), onDismiss := some ⟨0⟩, onAutoClose := some ⟨1⟩ }),
    .proceed, .proceed, .handBack,
    .request (.present { id := some (.named "y"), onDismiss := some ⟨2⟩, onAutoClose := some ⟨3⟩ }),
    .proceed, .proceed, .handBack, .poll 0, .poll 0, .pass 6000]).get rfl

/-- Before either of the waits is taken up, there is a pause. -/
def stopped : Σ finish, Run (fresh {} {} 0) finish :=
  (together.2.extend? [.request .pause, .handBack]).get rfl

theorem together_lapsed :
    (together.2.Managed ∧
      AnyOrder together.1 [(.named "y", 2), (.named "x", 1)] [.named "y", .named "x"]
        together.1.Wakes) ∧
    (stopped.2.Managed ∧
      AnyOrder (stopped.1.request .resume) [.named "x", .named "y"] [.named "x", .named "y"]
        ((stopped.1.request .resume).Dismisses [.returned .done])) ∧
    ∀ said after, together.1.Wakes [(.named "y", 2), (.named "x", 1)] said after →
      said.length = 4 := by
  have managed : together.2.Managed := by decide
  have paused : stopped.2.Managed := by decide
  have waits := (lapses_in_any_order together.2 managed).2.1 [(.named "y", 2), (.named "x", 1)] [] rfl
    (List.Perm.swap _ _ _)
  have stride : Stride stopped.1 (.request .resume) _ := .request _ rfl
  obtain ⟨_, ids, rfl, _, dues⟩ := (lapses_in_any_order stopped.2 paused).1 _ stride
  refine ⟨⟨managed, waits⟩, ⟨paused, dues⟩, fun said after wakes => ?_⟩
  exact (waits.left _ said after (List.Perm.refl _) wakes).2.2.length_eq

end Run

end Engine

end Toasts
