import Mathlib.Data.List.Nodup
import Toasts.Proofs.Calls

/-!
What listeners get to see over whole runs. Of the announcements under way only the innermost can be
of the present snapshot, and what is still to be delivered of it, together with what has been
delivered, is its whole audience in order. So every delivery is of the present snapshot, nobody is
told of an earlier snapshot after a later one, and when no announcement is under way everybody has
had the last.
-/

namespace Toasts

namespace Store

variable {store after : Store}

theorem Enrols.toasts (enrols : store.Enrols after) : after.toasts = store.toasts := by
  cases enrols <;> rfl

theorem Enrols.version (enrols : store.Enrols after) : after.version = store.version := by
  cases enrols <;> rfl

/-- No two listeners share a number, and all their numbers have been given out. -/
def Numbered (store : Store) : Prop :=
  (store.listeners.map (·.id)).Nodup ∧
    ∀ listener ∈ store.listeners, listener.id ≤ store.subscriptions

theorem Enrols.numbered (enrols : store.Enrols after) (numbered : store.Numbered) :
    after.Numbered := by
  obtain ⟨distinct, given⟩ := numbered
  cases enrols with
  | same => exact ⟨distinct, given⟩
  | subscribes hook =>
      constructor
      · simp only [subscribe, List.map_append, List.map_cons, List.map_nil]
        apply List.nodup_append.mpr
        refine ⟨distinct, by simp, ?_⟩
        intro id member other single same
        obtain ⟨listener, present, rfl⟩ := List.mem_map.mp member
        have bound := given listener present
        rw [List.mem_singleton.mp single] at same
        omega
      · intro listener member
        rcases List.mem_append.mp member with old | new
        · exact Nat.le_succ_of_le (given listener old)
        · rw [List.mem_singleton.mp new]
          exact Nat.le_refl _
  | unsubscribes number =>
      constructor
      · exact distinct.sublist (List.filter_sublist.map _)
      · intro listener member
        exact given listener (List.mem_filter.mp member).1

end Store

namespace Engine

variable {engine after : Engine} {event : Event}

structure Informed (engine : Engine) : Prop where
  numbered : engine.store.Numbered
  nested : engine.publications.Pairwise fun upper lower => lower.version < upper.version
  past : ∀ publication ∈ engine.publications, publication.version ≤ engine.store.version
  current : ∀ publication ∈ engine.publications, publication.version = engine.store.version →
    publication.snapshot = engine.store.toasts

theorem fresh_informed (settings : Settings) (defaults : Defaults) (now : Nat) :
    Informed (fresh settings defaults now) where
  numbered := by simp [Store.Numbered, fresh]
  nested := List.Pairwise.nil
  past := by simp [publications, fresh]
  current := by simp [publications, fresh]

theorem Tells.informed (tells : Tells engine after) (informed : Informed engine) :
    Informed after := by
  obtain ⟨numbered, nested, past, current⟩ := informed
  cases tells with
  | silent store publications unheard =>
      refine ⟨store.numbered numbered, ?_, ?_, ?_⟩
      · rwa [publications]
      · rwa [publications, store.version]
      · rwa [publications, store.version, store.toasts]
  | posts toasts store publications unheard =>
      have version : after.store.version = engine.store.version + 1 := by rw [store]; rfl
      have older : ∀ publication ∈ engine.publications,
          publication.version < after.store.version := by
        intro publication member
        have bound := past publication member
        omega
      refine ⟨by rw [store]; exact numbered, ?_, ?_, ?_⟩
      · rw [publications]
        exact List.pairwise_cons.mpr ⟨older, nested⟩
      · rw [publications]
        intro publication member
        rcases List.mem_cons.mp member with rfl | old
        · exact Nat.le_refl _
        · exact Nat.le_of_lt (older publication old)
      · rw [publications]
        intro publication member same
        rcases List.mem_cons.mp member with rfl | old
        · rw [store]
          rfl
        · exact absurd same (Nat.ne_of_lt (older publication old))
  | served first store publications done unheard =>
      rw [publications] at nested past current
      refine ⟨store ▸ numbered, (List.pairwise_cons.mp nested).2, ?_, ?_⟩
      · intro publication member
        rw [store]
        exact past publication (List.mem_cons_of_mem _ member)
      · intro publication member same
        rw [store] at same ⊢
        exact current publication (List.mem_cons_of_mem _ member) same
  | delivers first listener pending rest store before next publications present begun =>
      -- The first announcement differs only in those who wait for it.
      rw [before] at nested past current
      obtain ⟨below, nested⟩ := List.pairwise_cons.mp nested
      refine ⟨store ▸ numbered, ?_, ?_, ?_⟩
      · rw [publications]
        exact List.pairwise_cons.mpr ⟨below, nested⟩
      · rw [publications, store]
        intro publication member
        rcases List.mem_cons.mp member with rfl | old
        · exact past first List.mem_cons_self
        · exact past publication (List.mem_cons_of_mem _ old)
      · rw [publications, store]
        intro publication member same
        rcases List.mem_cons.mp member with rfl | old
        · exact current first List.mem_cons_self same
        · exact current publication (List.mem_cons_of_mem _ old) same

def outstanding (engine : Engine) : List Nat :=
  match engine.publications with
  | first :: _ =>
      if first.version = engine.store.version then first.pending.map (·.id) else []
  | [] => []

theorem outstanding_past (past : ∀ publication ∈ engine.publications,
    publication.version < engine.store.version) : engine.outstanding = [] := by
  rw [outstanding]
  split
  next first rest shape =>
      have bound := past first (by simp [shape])
      rw [if_neg (Nat.ne_of_lt bound)]
  next => rfl

/-- What lies below an announcement that goes is out of date. -/
theorem Informed.outstanding_served (informed : Informed engine) {first : Publication}
    (store : after.store = engine.store)
    (publications : engine.publications = first :: after.publications) :
    after.outstanding = [] := by
  obtain ⟨below, _⟩ := List.pairwise_cons.mp (publications ▸ informed.nested)
  have bound := informed.past first (by simp [publications])
  apply outstanding_past
  intro publication member
  rw [store]
  exact Nat.lt_of_lt_of_le (below publication member) bound

namespace Run

variable {settings : Settings} {defaults : Defaults} {now : Nat} {start finish : Engine}

def deliveries {finish : Engine} : Run start finish → List Delivery
  | .start => []
  | @Run.next _ engine after run _ _ => run.deliveries ++ (engine.delivery? after).toList

theorem deliveries_begun (run : Run start finish) :
    run.deliveries.map (fun delivery => (delivery.listener, delivery.snapshot)) =
      run.callsBegun.filterMap Call.delivered? := by
  induction run with
  | start => rfl
  | @next engine after run event stride ih =>
      have last : (engine.delivery? after).toList.map
          (fun delivery => (delivery.listener, delivery.snapshot)) =
            (engine.begun? after).toList.filterMap Call.delivered? := by
        rw [delivery?]
        cases engine.begun? after with
        | none => rfl
        | some call => cases told : call.delivered? <;> simp [told]
      rw [deliveries, callsBegun, List.map_append, List.filterMap_append, ih, last]

/-- The listeners at the moment when the last snapshot was made. -/
def audience {finish : Engine} : Run start finish → List Listener
  | .start => []
  | @Run.next _ engine after run _ _ =>
      if after.store.version = engine.store.version then run.audience else after.store.listeners

/-- Those who have been told of the present snapshot, in the order of the calls. -/
def told (run : Run start finish) : List Nat :=
  (run.deliveries.filter (·.number = finish.store.version)).map (·.listener)

/-- The deliveries of a run and the announcements under way at its end add up. -/
structure Accounted (run : Run start finish) : Prop where
  informed : Informed finish
  distinct : (run.audience.map (·.id)).Nodup
  complete : run.told ++ finish.outstanding = run.audience.map (·.id)
  known : ∀ delivery ∈ run.deliveries, delivery.number ≤ finish.store.version ∧
    (delivery.number = finish.store.version → delivery.snapshot = finish.store.toasts)
  ordered : run.deliveries.Pairwise fun earlier later =>
    earlier.listener = later.listener → earlier.number < later.number

theorem accounted_silent {engine after : Engine} {event : Event} {run : Run start engine}
    (accounted : run.Accounted) (stride : Stride engine event after) (informed : Informed after)
    (toasts : after.store.toasts = engine.store.toasts)
    (version : after.store.version = engine.store.version)
    (outstanding : after.outstanding = engine.outstanding)
    (unheard : engine.delivery? after = none) : (run.next event stride).Accounted := by
  have same : (run.next event stride).deliveries = run.deliveries := by
    simp [deliveries, unheard]
  have audience : (run.next event stride).audience = run.audience := by
    simp [Run.audience, version]
  refine ⟨informed, ?_, ?_, ?_, ?_⟩
  · rw [audience]
    exact accounted.distinct
  · rw [told, same, version, outstanding, audience]
    exact accounted.complete
  · rw [same, version, toasts]
    exact accounted.known
  · rw [same]
    exact accounted.ordered

theorem accounted_posts {engine after : Engine} {event : Event} {run : Run start engine}
    (accounted : run.Accounted) (stride : Stride engine event after) (informed : Informed after)
    {toasts : List Toast} (store : after.store = engine.store.swap toasts)
    (publications : after.publications =
      ⟨after.store.version, toasts, engine.store.listeners⟩ :: engine.publications)
    (unheard : engine.delivery? after = none) : (run.next event stride).Accounted := by
  have version : after.store.version = engine.store.version + 1 := by rw [store]; rfl
  have same : (run.next event stride).deliveries = run.deliveries := by
    simp [deliveries, unheard]
  have audience : (run.next event stride).audience = engine.store.listeners := by
    have listeners : after.store.listeners = engine.store.listeners := by rw [store]; rfl
    simp [Run.audience, version, listeners]
  have older : ∀ delivery ∈ run.deliveries, delivery.number < after.store.version := by
    intro delivery member
    have bound := (accounted.known delivery member).1
    omega
  refine ⟨informed, ?_, ?_, ?_, ?_⟩
  · rw [audience]
    exact accounted.informed.numbered.1
  · have none : run.deliveries.filter (·.number = after.store.version) = [] := by
      apply List.filter_eq_nil_iff.mpr
      intro delivery member
      simpa using Nat.ne_of_lt (older delivery member)
    rw [told, same, none, audience, outstanding, publications]
    simp
  · rw [same]
    intro delivery member
    have bound := older delivery member
    exact ⟨Nat.le_of_lt bound, fun now => absurd now (Nat.ne_of_lt bound)⟩
  · rw [same]
    exact accounted.ordered

theorem accounted_delivers {engine after : Engine} {event : Event} {run : Run start engine}
    (accounted : run.Accounted) (stride : Stride engine event after) (informed : Informed after)
    {first : Publication} {listener : Listener} {pending : List Listener} {rest : List Publication}
    (store : after.store = engine.store) (before : engine.publications = first :: rest)
    (next : first.pending = listener :: pending)
    (publications : after.publications = { first with pending } :: rest)
    (current : engine.store.version = first.version)
    (delivers : engine.delivery? after = some ⟨listener.id, first.version, first.snapshot⟩) :
    (run.next event stride).Accounted := by
  have more : (run.next event stride).deliveries =
      run.deliveries ++ [⟨listener.id, first.version, first.snapshot⟩] := by
    simp [deliveries, delivers]
  have audience : (run.next event stride).audience = run.audience := by
    simp [Run.audience, store]
  have waits : engine.outstanding = listener.id :: pending.map (·.id) := by
    simp [outstanding, before, current, next]
  have complete := accounted.complete
  have snapshot : first.snapshot = engine.store.toasts :=
    accounted.informed.current first (by simp [before]) current.symm
  refine ⟨informed, ?_, ?_, ?_, ?_⟩
  · rw [audience]
    exact accounted.distinct
  · have told : (run.next event stride).told = run.told ++ [listener.id] := by
      simp [Run.told, more, store, current]
    have left : after.outstanding = pending.map (·.id) := by
      simp [outstanding, publications, store, current]
    rw [told, left, audience, ← complete, waits, List.append_assoc]
    rfl
  · rw [more, store]
    intro delivery member
    rcases List.mem_append.mp member with old | new
    · exact accounted.known delivery old
    · rw [List.mem_singleton.mp new]
      exact ⟨Nat.le_of_eq current.symm, fun _ => snapshot⟩
  · rw [more]
    apply List.pairwise_append.mpr
    refine ⟨accounted.ordered, List.pairwise_singleton _ _, ?_⟩
    intro earlier member later single same
    rw [List.mem_singleton.mp single] at same ⊢
    apply Nat.lt_of_le_of_ne
    · rw [← current]
      exact (accounted.known earlier member).1
    -- Who still waits for the snapshot has not been told of it.
    · intro twice
      have present : earlier.number = engine.store.version := twice.trans current.symm
      have already : listener.id ∈ run.told :=
        List.mem_map.mpr ⟨earlier, List.mem_filter.mpr ⟨member, by simpa using present⟩, same⟩
      have distinct := accounted.distinct
      rw [← complete, waits] at distinct
      exact (List.nodup_append.mp distinct).2.2 _ already _ List.mem_cons_self rfl

theorem accounted (run : Run (fresh settings defaults now) finish) : run.Accounted := by
  induction run with
  | start =>
      exact ⟨fresh_informed settings defaults now, List.nodup_nil, rfl, by simp [deliveries],
        List.Pairwise.nil⟩
  | @next engine after run event stride ih =>
      have informed := stride.tells.informed ih.informed
      cases stride.tells with
      | silent store publications unheard =>
          have same : after.outstanding = engine.outstanding := by
            rw [outstanding, publications, store.version, outstanding]
          exact accounted_silent ih stride informed store.toasts store.version same unheard
      | posts toasts store publications unheard =>
          exact accounted_posts ih stride informed store publications unheard
      | served first store publications done unheard =>
          have none := ih.informed.outstanding_served store publications
          have before : engine.outstanding = [] := by
            rw [outstanding, publications]
            rcases done with empty | past
            · simp [empty]
            · simp [Ne.symm past]
          exact accounted_silent ih stride informed (by rw [store]) (by rw [store])
            (none.trans before.symm) unheard
      | delivers first listener pending rest store before next publications current delivers =>
          exact accounted_delivers ih stride informed store before next publications current
            delivers

/-- The snapshots that one listener receives are in the order in which they were made. -/
theorem Accounted.increasing {run : Run start finish} (accounted : run.Accounted) (id : Nat) :
    ((run.deliveries.filter (·.listener = id)).map (·.number)).Pairwise (· < ·) := by
  apply List.pairwise_map.mpr
  have own := List.Pairwise.filter (fun delivery => decide (delivery.listener = id))
    accounted.ordered
  apply own.imp_of_mem
  intro earlier later first second ordered
  have same := of_decide_eq_true (List.mem_filter.mp first).2
  exact ordered (same.trans (of_decide_eq_true (List.mem_filter.mp second).2).symm)

/-- When no announcement is under way, everybody in the audience of the present snapshot has been
told of it. -/
theorem Accounted.reached {run : Run start finish} (accounted : run.Accounted)
    (idle : finish.publications = []) {listener : Listener} (member : listener ∈ run.audience) :
    ⟨listener.id, finish.store.version, finish.store.toasts⟩ ∈ run.deliveries ∧
      run.told.count listener.id = 1 := by
  have none : finish.outstanding = [] := by rw [outstanding, idle]
  have complete := accounted.complete
  rw [none, List.append_nil] at complete
  have listed : listener.id ∈ run.told := complete ▸ List.mem_map_of_mem member
  constructor
  · obtain ⟨delivery, among, same⟩ := List.mem_map.mp listed
    obtain ⟨present, now⟩ := List.mem_filter.mp among
    have number := of_decide_eq_true now
    have snapshot := (accounted.known delivery present).2 number
    have whole : delivery = ⟨listener.id, finish.store.version, finish.store.toasts⟩ := by
      cases delivery
      simp_all
    exact whole ▸ present
  · have distinct := accounted.distinct
    rw [← complete] at distinct
    exact List.count_eq_one_of_mem distinct listed

theorem getLast?_of_increasing {deliveries : List Delivery} {delivery : Delivery}
    (increasing : (deliveries.map (·.number)).Pairwise (· < ·)) (member : delivery ∈ deliveries)
    (greatest : ∀ other ∈ deliveries, other.number ≤ delivery.number) :
    deliveries.getLast? = some delivery := by
  obtain ⟨before, rest, rfl⟩ := List.append_of_mem member
  cases rest with
  | nil => simp
  | cons next rest =>
      rw [List.map_append, List.pairwise_append] at increasing
      have ahead : delivery.number < next.number :=
        (List.pairwise_cons.mp increasing.2.1).1 next.number (by simp)
      have bound := greatest next (by simp)
      omega

/-- Listeners see the changes in order and end on the final state. In every run, whoever writes to
the store and from within whatever deliveries: the deliveries are all the calls of listeners, and no
call escapes the count, since those that begin are those that are handed back and those under way;
the number of the snapshot goes up by one when the toasts change, and never else; a delivery is of the
snapshot that is present when it begins; the numbers of the snapshots that a listener receives only
grow; and when no announcement is under way, as at the return of a write that was not begun within a
delivery, every listener in the audience of the last snapshot has received it exactly once, and after
all others. -/
theorem deliveries_in_order (run : Run (fresh settings defaults now) finish) :
    (run.callsBegun.Perm (run.callsEnded ++ finish.underWay) ∧
      run.deliveries.map (fun delivery => (delivery.listener, delivery.snapshot)) =
        run.callsBegun.filterMap Call.delivered?) ∧
    (∀ {event after}, Stride finish event after →
      (after.store.version = finish.store.version ∧ after.store.toasts = finish.store.toasts) ∨
        after.store.version = finish.store.version + 1) ∧
    (∀ {event after}, Stride finish event after → ∀ delivery,
      finish.delivery? after = some delivery →
        delivery.snapshot = finish.store.toasts ∧ delivery.number = finish.store.version) ∧
    (∀ id, ((run.deliveries.filter (·.listener = id)).map (·.number)).Pairwise (· < ·)) ∧
    (finish.publications = [] → ∀ listener ∈ run.audience,
      (run.deliveries.filter (·.listener = listener.id)).getLast? =
        some ⟨listener.id, finish.store.version, finish.store.toasts⟩ ∧
      run.deliveries.countP (fun delivery => delivery.listener = listener.id ∧
        delivery.number = finish.store.version) = 1) := by
  have accounted := run.accounted
  refine ⟨⟨run.calls_counted, run.deliveries_begun⟩, ?_, ?_, accounted.increasing, ?_⟩
  · intro event after stride
    cases stride.tells with
    | silent store publications unheard => exact .inl ⟨store.version, store.toasts⟩
    | posts toasts store publications unheard => exact .inr (by rw [store]; rfl)
    | served first store publications done unheard => exact .inl (by rw [store]; exact ⟨rfl, rfl⟩)
    | delivers first listener pending rest store before next publications current delivers =>
        exact .inl (by rw [store]; exact ⟨rfl, rfl⟩)
  · intro event after stride delivery begun
    cases stride.tells with
    | silent store publications unheard => simp [unheard] at begun
    | posts toasts store publications unheard => simp [unheard] at begun
    | served first store publications done unheard => simp [unheard] at begun
    | delivers first listener pending rest store before next publications current delivers =>
        obtain rfl := Option.some.inj (delivers.symm.trans begun)
        exact ⟨accounted.informed.current first (by simp [before]) current.symm, current.symm⟩
  · intro idle listener member
    obtain ⟨received, once⟩ := accounted.reached idle member
    constructor
    · apply getLast?_of_increasing (accounted.increasing listener.id)
      · exact List.mem_filter.mpr ⟨received, by simp⟩
      · intro other among
        exact (accounted.known other (List.mem_filter.mp among).1).1
    · rw [← once, told, List.count_eq_countP, List.countP_map, List.countP_filter]
      apply List.countP_congr
      intro delivery _
      simp only [Function.comp_apply, Bool.and_eq_true, beq_iff_eq, decide_eq_true_eq]

def plain (name : String) : Event :=
  .request (.write (.add (Toast.create { id := some (.named name) } {} {} {} 0)))

def echo : Σ finish, Run (fresh {} {} 0) finish :=
  (Run.start.extend? [.request (.subscribe ⟨0⟩), .handBack, .request (.subscribe ⟨1⟩), .handBack,
    plain "x"]).get rfl

/-- It writes from within its delivery, and the second listener never sees the first snapshot. -/
def echoed : Σ finish, Run (fresh {} {} 0) finish :=
  (echo.2.extend? [.proceed, plain "y", .proceed, .handBack, .proceed, .handBack, .proceed,
    .handBack, .handBack, .proceed, .handBack]).get rfl

theorem echoed_in_order :
    (∃ after delivery, echo.1.follow? .proceed = some after ∧
      echo.1.delivery? after = some delivery ∧ delivery.snapshot = echo.1.store.toasts ∧
      delivery.number = echo.1.store.version) ∧
    echoed.2.deliveries.map (fun delivery => (delivery.listener, delivery.number)) =
      [(1, 1), (1, 2), (2, 2)] ∧
    ∃ listener ∈ echoed.2.audience, listener.id = 2 ∧
      (echoed.2.deliveries.filter (·.listener = listener.id)).getLast? =
        some ⟨listener.id, echoed.1.store.version, echoed.1.store.toasts⟩ := by
  have followed : echo.1.follow? .proceed = some _ := rfl
  refine ⟨⟨_, _, followed, rfl, ?_⟩, by decide, ?_⟩
  · exact (deliveries_in_order echo.2).2.2.1 (follow?_stride followed) _ rfl
  · have member : (⟨2, ⟨1⟩⟩ : Listener) ∈ echoed.2.audience := by decide
    exact ⟨_, member, rfl, ((deliveries_in_order echoed.2).2.2.2.2 rfl _ member).1⟩

end Run

end Engine

end Toasts
