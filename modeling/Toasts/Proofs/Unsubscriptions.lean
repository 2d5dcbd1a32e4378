import Toasts.Proofs.Deliveries

/-!
What an unsubscription stops. A listener that has gone is not in the audience of any later snapshot.
But an announcement hands its snapshot to the listeners that were there when the snapshot was made,
so whoever still waits for the present snapshot, and goes in a call of a listener before it, is told
of it all the same, once, unless a newer snapshot comes first.
-/

namespace Toasts

def Frame.isBrief : Frame → Bool
  | .disarm _ => true
  | .due _ => true
  | frame => !frame.isWork

/-- What may lie above an announcement that goes on: only the top can be work. -/
structure Frame.Brief (frames : List Frame) : Prop where
  brief : ∀ frame ∈ frames, frame.isBrief = true
  idle : ∀ frame ∈ frames.tail, frame.isWork = false

theorem Frame.isBrief_of_idle {frame : Frame} (idle : frame.isWork = false) :
    frame.isBrief = true := by
  cases frame <;> first | rfl | cases idle

theorem Frame.isWork_of_isOutside {frame : Frame} (outside : frame.isOutside = true) :
    frame.isWork = false := by
  cases frame <;> first | rfl | cases outside

theorem Frame.Brief.of_idle {frames : List Frame} (idle : ∀ frame ∈ frames, frame.isWork = false) :
    Frame.Brief frames where
  brief := fun frame member => isBrief_of_idle (idle frame member)
  idle := fun frame member => idle frame (List.mem_of_mem_tail member)

theorem Frame.Brief.single {frame : Frame} (brief : frame.isBrief = true) :
    Frame.Brief [frame] where
  brief := by simpa using brief
  idle := by simp

theorem Frame.Brief.append {pushed below : List Frame} (brief : Frame.Brief pushed)
    (idle : ∀ frame ∈ below, frame.isWork = false) : Frame.Brief (pushed ++ below) := by
  cases pushed with
  | nil => exact .of_idle idle
  | cons first pushed =>
      refine ⟨fun frame member => ?_, fun frame member => ?_⟩
      · rcases List.mem_append.mp member with above | beneath
        · exact brief.brief frame above
        · exact isBrief_of_idle (idle frame beneath)
      · rcases List.mem_append.mp member with above | beneath
        · exact brief.idle frame above
        · exact idle frame beneath

theorem Frame.Brief.tail {first : Frame} {rest : List Frame} (brief : Frame.Brief (first :: rest)) :
    ∀ frame ∈ rest, frame.isWork = false := brief.idle

theorem Store.Enrols.absent {store after : Store} {number : Nat} (enrols : store.Enrols after)
    (given : number ≤ store.subscriptions) (absent : number ∉ store.listeners.map (·.id)) :
    number ≤ after.subscriptions ∧ number ∉ after.listeners.map (·.id) := by
  cases enrols with
  | same => exact ⟨given, absent⟩
  | subscribes hook =>
      refine ⟨Nat.le_succ_of_le given, ?_⟩
      have newer : number ≠ store.subscriptions + 1 := by omega
      simpa [subscribe, newer] using absent
  | unsubscribes other =>
      exact ⟨given, fun member => absent ((List.filter_sublist.map _).mem member)⟩

namespace Engine

variable {engine after : Engine} {event : Event} {number : Nat}

/-- Only brief work lies above the announcement of the present snapshot, if it is under way. -/
def Hushed (engine : Engine) : Prop :=
  ∀ above version snapshot pending below,
    engine.frames = above ++ .publish version snapshot pending :: below →
    version = engine.store.version → Frame.Brief above

theorem Effect.terse (effect : Effect engine after) :
    after.store.version = engine.store.version + 1 ∨
      ∃ pushed, after.frames = pushed ++ engine.frames ∧ Frame.Brief pushed := by
  cases effect with
  | calm pushed outside steady toasts version countdowns agenda frames =>
      exact .inr ⟨pushed, frames, .of_idle fun frame member =>
        Frame.isWork_of_isOutside (outside frame member)⟩
  | shows shows =>
      cases shows with
      | revise toast revised options number found live made new publishes =>
          exact .inl publishes.version
      | append toast options number made new publishes => exact .inl publishes.version
  | leaves toast leaves => exact .inl leaves.publishes.version
  | clears position publishes => exact .inl publishes.version
  | spares position spared same => exact .inr ⟨[_], by rw [same]; rfl, .single rfl⟩
  | paints toast painted found made publishes => exact .inl publishes.version
  | pauses same => exact .inr ⟨[], by rw [same]; rfl, .of_idle (by simp)⟩
  | resumes same => exact .inr ⟨[_], by rw [same]; rfl, .single rfl⟩

theorem flagged_terse (engine : Engine) (changed : Option Store)
    (swaps : ∀ store, changed = some store → ∃ toasts, store = engine.store.swap toasts) :
    (write.flagged engine changed).1.store.version = engine.store.version + 1 ∨
      (write.flagged engine changed).1.frames = engine.frames := by
  cases changed with
  | none => exact .inr rfl
  | some store =>
      obtain ⟨toasts, rfl⟩ := swaps store rfl
      exact .inl rfl

theorem write_terse (engine : Engine) (change : StoreWrite) :
    (engine.write change).1.store.version = engine.store.version + 1 ∨
      (engine.write change).1.frames = engine.frames := by
  have removes (doomed : Toast → Bool) : ∀ store, engine.store.removeWhere? doomed = some store →
      ∃ toasts, store = engine.store.swap toasts :=
    fun store removed => ⟨_, (Store.removeWhere?_some removed).1⟩
  cases change with
  | add toast => exact .inl rfl
  | update id change =>
      apply flagged_terse
      intro store updated
      obtain ⟨_, revised, _, _, same⟩ := Store.update?_some updated
      exact ⟨_, same⟩
  | remove id => exact flagged_terse engine _ (removes _)
  | removeEdition id edition => exact flagged_terse engine _ (removes _)
  | clear position =>
      simp only [write]
      split
      next store cleared =>
          obtain ⟨toasts, rfl⟩ := removes _ store cleared
          exact .inl rfl
      next => exact .inr rfl

theorem perform_terse (engine : Engine) (operation : Operation) :
    (engine.perform operation).1.store.version = engine.store.version + 1 ∨
      ∃ pushed, (engine.perform operation).1.frames = pushed ++ engine.frames ∧
        Frame.Brief pushed := by
  cases managed : operation.isWrite with
  | false => exact (perform_effect engine operation managed).terse
  | true =>
      cases operation with
      | write change =>
          exact (write_terse engine change).imp_right fun same => ⟨[], same, .of_idle (by simp)⟩
      | _ => cases managed

/-- Above a new snapshot there is nothing, and below it no announcement is of the present one. -/
theorem hushed_of_newer (popped pushed below : List Frame) (informed : Informed engine)
    (old : engine.frames = popped ++ below)
    (frames : after.frames = after.announcement :: (pushed ++ below))
    (mute : ∀ frame ∈ pushed, frame.tells = false)
    (newer : after.store.version = engine.store.version + 1) : after.Hushed := by
  intro above version snapshot pending rest split current
  rw [frames] at split
  cases above with
  | nil => exact .of_idle (by simp)
  | cons first above =>
      have member : .publish version snapshot pending ∈ pushed ++ below := by
        rw [(List.cons.inj split).2]
        simp
      rcases List.mem_append.mp member with new | under
      · cases mute _ new
      · have listed : ⟨version, snapshot, pending⟩ ∈ engine.publications :=
          List.mem_filterMap.mpr ⟨_, old ▸ List.mem_append_right _ under, rfl⟩
        have bound := informed.past _ listed
        dsimp only at bound
        omega

theorem Hushed.swap (hushed : engine.Hushed) (popped pushed below : List Frame)
    (old : engine.frames = popped ++ below) (frames : after.frames = pushed ++ below)
    (version : after.store.version = engine.store.version)
    (mute : ∀ frame ∈ pushed, frame.publication? = none)
    (swap : ∀ above number snapshot pending rest,
      engine.frames = (popped ++ above) ++ .publish number snapshot pending :: rest →
      Frame.Brief (popped ++ above) → Frame.Brief (pushed ++ above)) : after.Hushed := by
  intro above number snapshot pending rest split current
  rw [frames] at split
  have kept {more : List Frame} (under : below = more ++ .publish number snapshot pending :: rest) :
      Frame.Brief (pushed ++ more) := by
    have whole : engine.frames = (popped ++ more) ++ .publish number snapshot pending :: rest := by
      rw [old, under, List.append_assoc]
    exact swap more number snapshot pending rest whole
      (hushed _ number snapshot pending rest whole (current.trans version))
  rcases List.append_eq_append_iff.mp split with ⟨more, rfl, under⟩ | ⟨more, within, under⟩
  · exact kept under
  · cases more with
    | nil =>
        have brief := @kept [] under.symm
        rwa [within, List.append_nil, List.append_nil] at brief
    | cons first more =>
        obtain ⟨rfl, _⟩ := List.cons.inj under
        cases mute _ (within ▸ List.mem_append_right _ List.mem_cons_self)

theorem Informed.buried (informed : Informed engine) {version : Nat} {snapshot : List Toast}
    {pending : List Listener} {below : List Frame}
    (top : engine.frames = .publish version snapshot pending :: below) :
    ∀ number shown waiting, .publish number shown waiting ∈ below →
      number < engine.store.version := by
  intro number shown waiting member
  have listed : engine.publications = ⟨version, snapshot, pending⟩ ::
      below.filterMap Frame.publication? := by
    simp [publications, top, Frame.publication?]
  have nested := informed.nested
  rw [listed] at nested
  have less := (List.pairwise_cons.mp nested).1 ⟨number, shown, waiting⟩
    (List.mem_filterMap.mpr ⟨_, member, rfl⟩)
  have bound := informed.past ⟨version, snapshot, pending⟩ (by simp [listed])
  exact Nat.lt_of_lt_of_le less bound

theorem Move.hushed (move : Move engine .proceed after) (informed : Informed engine)
    (hushed : engine.Hushed) : after.Hushed := by
  -- Work that is neither brief nor an announcement lies above no announcement that goes on.
  have long {frame : Frame} {rest : List Frame} {later : Engine}
      (top : engine.frames = frame :: rest)
      (work : frame.isBrief = false) (pushed : List Frame) (frames : later.frames = pushed ++ rest)
      (version : later.store.version = engine.store.version)
      (mute : ∀ frame ∈ pushed, frame.publication? = none) : later.Hushed := by
    refine hushed.swap [frame] pushed rest top frames version mute ?_
    intro above number snapshot pending below split brief
    have first := brief.brief frame List.mem_cons_self
    rw [work] at first
    cases first
  have gone {version : Nat} {snapshot : List Toast} {pending : List Listener} {rest : List Frame}
      (top : engine.frames = .publish version snapshot pending :: rest)
      {later : Engine} {above : List Frame} {number : Nat} {shown : List Toast}
      {waiting : List Listener} {below : List Frame} (same : later.store = engine.store)
      (split : rest = above ++ .publish number shown waiting :: below)
      (current : number = later.store.version) : False := by
    have less := informed.buried top number shown waiting (by simp [split])
    rw [current, same] at less
    exact Nat.lt_irrefl _ less
  cases move with
  | published version snapshot pending rest top served =>
      intro above number shown waiting below split current
      exact (gone top rfl split current).elim
  | deliver version snapshot listener pending rest top current =>
      intro above number shown waiting below split present
      rcases above with _ | ⟨first, _ | ⟨second, above⟩⟩
      · cases split
      · exact .of_idle (by cases split; simp [Frame.isWork])
      · exact (gone top rfl (List.cons.inj (List.cons.inj split).2).2 present).elim
  | arm id lifespan rest top =>
      obtain ⟨countdowns, agenda, shape⟩ := arm_shape { engine with frames := rest } id lifespan
      exact long top rfl [] (by rw [shape]; rfl) (by rw [shape]) (by simp)
  | leave toast cause rest top =>
      refine long top rfl (_ ++ [_]) (List.append_assoc _ [_] rest).symm rfl fun frame member =>
        publication?_of_mute ?_
      cases cause with
      | user => exact callback_mute none (.dismissed · toast) _ (fun _ => rfl) rfl frame member
      | countdown => exact callback_mute _ _ _ (fun _ => rfl) rfl frame member
  | farewell toast rest top =>
      exact long top rfl (_ ++ [_]) (List.append_assoc _ [_] rest).symm rfl fun frame member =>
        publication?_of_mute (callback_mute _ _ _ (fun _ => rfl) rfl frame member)
  | exitWindow toast rest top => exact long top rfl [] rfl rfl (by simp)
  | disarm ids rest top =>
      obtain ⟨countdowns, shape⟩ := disarm_shape { engine with frames := rest } ids
      exact hushed.swap [.disarm ids] [] rest top (by rw [shape]; rfl)
        (by rw [shape]) (by simp) fun _ _ _ _ _ _ brief => .of_idle brief.tail
  | dueDone rest top =>
      exact hushed.swap [.due []] [] rest top rfl rfl (by simp)
        fun _ _ _ _ _ _ brief => .of_idle brief.tail
  | dueGone id ids rest top gone =>
      exact hushed.swap [.due (id :: ids)] [.due ids] rest top rfl rfl
        (by simp [Frame.publication?])
        fun _ _ _ _ _ _ brief => (Frame.Brief.single rfl).append brief.tail
  | due toast ids rest after top leaves =>
      exact hushed_of_newer [_] [_, _] rest informed top leaves.publishes.frames
        (by simp [Frame.tells]) leaves.publishes.version

theorem hushed_of_silent (silent : after.publications = []) : after.Hushed := by
  intro above number shown waiting below split current
  have listed : ⟨number, shown, waiting⟩ ∈ after.publications :=
    List.mem_filterMap.mpr ⟨.publish number shown waiting, by simp [split], rfl⟩
  rw [silent] at listed
  cases listed

theorem idle_of_turn {above below : List Frame} {version : Nat} {snapshot : List Toast}
    {pending : List Listener} (brief : Frame.Brief above) (turn : engine.isCallersTurn = true)
    (split : engine.frames = above ++ .publish version snapshot pending :: below) :
    ∀ frame ∈ above, frame.isWork = false := by
  cases above with
  | nil => simp [isCallersTurn, split] at turn
  | cons first above =>
      refine List.forall_mem_cons.mpr ⟨?_, brief.tail⟩
      cases first <;> first | rfl | simp [isCallersTurn, split] at turn

theorem request_hushed (turn : engine.isCallersTurn = true) (operation : Operation)
    (informed : Informed engine) (hushed : engine.Hushed) :
    (engine.request operation).Hushed := by
  have posts := perform_posts { engine with frames := [] } operation
  have terse := perform_terse { engine with frames := [] } operation
  simp only [Engine.request]
  generalize performed : { engine with frames := [] }.perform operation = result at posts terse
  obtain ⟨later, answer⟩ := result
  dsimp only at posts terse ⊢
  cases posts with
  | posts toasts rest mute calm store frames =>
      refine hushed_of_newer [] (rest ++ [.returned answer]) engine.frames informed rfl
        (by simp [frames, announcement]) ?_ (by simp [store, Store.swap])
      intro frame member
      rcases List.mem_append.mp member with new | single
      · exact mute frame new
      · rw [List.mem_singleton.mp single]
        rfl
  | silent pushed mute calm enrols frames =>
      obtain newer | ⟨pushed', frames', brief⟩ := terse
      · rw [enrols.version] at newer
        exact absurd newer (Nat.ne_of_lt (Nat.lt_succ_self _))
      · obtain rfl : pushed = pushed' := by
          have both := frames.symm.trans frames'
          simpa using both
        refine hushed.swap [] (pushed ++ [.returned answer]) engine.frames rfl
          (by simp [frames]) enrols.version ?_ ?_
        · intro frame member
          rcases List.mem_append.mp member with new | single
          · exact publication?_of_mute (mute frame new)
          · rw [List.mem_singleton.mp single]
            rfl
        · intro above number snapshot pending rest split under
          rw [List.append_assoc]
          exact brief.append (List.forall_mem_cons.mpr ⟨rfl, idle_of_turn under turn split⟩)

theorem Stride.hushed (stride : Stride engine event after) (informed : Informed engine)
    (hushed : engine.Hushed) : after.Hushed := by
  cases stride with
  | request operation turn => exact request_hushed turn operation informed hushed
  | proceed frame rest top work =>
      exact (proceed_move engine frame rest top work).hushed informed hushed
  | handBack frame rest top idle =>
      rw [resumeTurn_pops top idle]
      exact hushed.swap [frame] [] rest top rfl rfl (by simp)
        fun _ _ _ _ _ _ brief => .of_idle brief.tail
  | poll place after idle taken =>
      have silent (later : Engine) (pushed : List Frame) (frames : later.frames = pushed)
          (mute : ∀ frame ∈ pushed, frame.publication? = none) : later.Hushed :=
        hushed_of_silent (by rw [publications, frames]; exact List.filterMap_eq_nil_iff.mpr mute)
      cases poll_move engine after place idle taken with
      | waits place agenda idle' taken' => exact silent _ [] idle (by simp)
      | stale place agenda deed idle' taken' gone => exact silent _ [] idle (by simp)
      | expireGone place agenda id generation countdowns countdown idle' taken' expired gone =>
          exact silent _ [] idle (by simp)
      | expire place agenda toast generation countdowns countdown after idle' taken' expired
          leaves =>
          exact hushed_of_newer [] [_] _ informed rfl leaves.publishes.frames
            (by simp [Frame.tells]) leaves.publishes.version
      | remove place agenda id edition after idle' taken' publishes =>
          exact hushed_of_newer [] [] [] informed idle publishes.frames
            (by simp) publishes.version
      | errand place agenda ticket idle' taken' =>
          exact silent _ [.caller (.errand ticket)] rfl (by simp [Frame.publication?])
  | pass moment idle later => exact hushed_of_silent (by simp [publications, advance, idle])

theorem Stride.absent (stride : Stride engine event after)
    (given : number ≤ engine.store.subscriptions)
    (absent : number ∉ engine.store.listeners.map (·.id)) :
    number ≤ after.store.subscriptions ∧ number ∉ after.store.listeners.map (·.id) := by
  cases stride.tells with
  | silent store publications unheard => exact store.absent given absent
  | posts toasts store publications unheard => rw [store]; exact ⟨given, absent⟩
  | served first store publications done unheard => rw [store]; exact ⟨given, absent⟩
  | delivers first listener pending rest store before next publications current heard =>
      rw [store]
      exact ⟨given, absent⟩

theorem outstanding_split (waiting : number ∈ engine.outstanding) :
    ∃ version snapshot pending above below,
      engine.frames = above ++ .publish version snapshot pending :: below ∧
      version = engine.store.version ∧ number ∈ pending.map (·.id) := by
  rw [outstanding] at waiting
  split at waiting
  next first rest listed =>
      split at waiting
      next current =>
          obtain ⟨above, frame, below, split, _, found, _⟩ := List.filterMap_eq_cons_iff.mp listed
          cases frame with
          | publish version snapshot pending =>
              obtain rfl := Option.some.inj found
              exact ⟨version, snapshot, pending, above, below, split, current, waiting⟩
          | _ => cases found
      next => cases waiting
  next => cases waiting

namespace Run

variable {settings : Settings} {defaults : Defaults} {now : Nat}
  {start finish before after : Engine}

/-- What a run owes to a listener that has gone: nothing but the snapshot it was waiting for. -/
structure Parted (number : Nat) (run : Run start finish) : Prop where
  informed : Informed finish
  given : number ≤ finish.store.subscriptions
  absent : number ∉ finish.store.listeners.map (·.id)
  balance : (run.deliveries.map (·.listener)).count number + finish.outstanding.count number ≤
    start.outstanding.count number
  present : number ∈ finish.outstanding →
    finish.store.version = start.store.version ∧ finish.store.toasts = start.store.toasts
  known : ∀ delivery ∈ run.deliveries, delivery.listener = number →
    delivery.number = start.store.version ∧ delivery.snapshot = start.store.toasts

theorem parted_unheard {number : Nat} {engine after : Engine} {event : Event}
    {run : Run start engine} (parted : run.Parted number) (stride : Stride engine event after)
    (unheard : engine.delivery? after = none)
    (waits : after.outstanding.count number ≤ engine.outstanding.count number)
    (present : number ∈ after.outstanding → number ∈ engine.outstanding →
      after.store.version = engine.store.version ∧ after.store.toasts = engine.store.toasts) :
    (run.next event stride).Parted number := by
  have same : (run.next event stride).deliveries = run.deliveries := by simp [deliveries, unheard]
  obtain ⟨given, absent⟩ := stride.absent parted.given parted.absent
  refine ⟨stride.tells.informed parted.informed, given, absent, ?_, fun waiting => ?_, ?_⟩
  · rw [same]
    exact Nat.le_trans (Nat.add_le_add_left waits _) parted.balance
  · have earlier : number ∈ engine.outstanding :=
      List.count_pos_iff.mp (Nat.lt_of_lt_of_le (List.count_pos_iff.mpr waiting) waits)
    obtain ⟨version, toasts⟩ := present waiting earlier
    obtain ⟨version', toasts'⟩ := parted.present earlier
    exact ⟨version.trans version', toasts.trans toasts'⟩
  · rw [same]
    exact parted.known

theorem parted_delivers {number : Nat} {engine after : Engine} {event : Event}
    {run : Run start engine} (parted : run.Parted number) (stride : Stride engine event after)
    {first : Publication} {listener : Listener} {pending : List Listener} {rest : List Publication}
    (store : after.store = engine.store) (before : engine.publications = first :: rest)
    (next : first.pending = listener :: pending)
    (publications : after.publications = { first with pending } :: rest)
    (current : engine.store.version = first.version)
    (heard : engine.delivery? after = some ⟨listener.id, first.version, first.snapshot⟩) :
    (run.next event stride).Parted number := by
  have waited : engine.outstanding = listener.id :: pending.map (·.id) := by
    simp [outstanding, before, current, next]
  have waits : after.outstanding = pending.map (·.id) := by
    simp [outstanding, publications, store, current]
  have more : (run.next event stride).deliveries =
      run.deliveries ++ [⟨listener.id, first.version, first.snapshot⟩] := by
    simp [deliveries, heard]
  obtain ⟨given, absent⟩ := stride.absent parted.given parted.absent
  refine ⟨stride.tells.informed parted.informed, given, absent, ?_, fun waiting => ?_, ?_⟩
  -- One waits less, and has been told once more.
  · have balance := parted.balance
    rw [waited, List.count_cons] at balance
    rw [more, waits, List.map_append, List.count_append, List.map_singleton, List.count_singleton]
    dsimp only
    omega
  · rw [waits] at waiting
    rw [store]
    exact parted.present (by rw [waited]; exact List.mem_cons_of_mem _ waiting)
  · rw [more]
    intro delivery member same
    rcases List.mem_append.mp member with old | new
    · exact parted.known delivery old same
    · obtain rfl := List.mem_singleton.mp new
      have waiting : number ∈ engine.outstanding := by
        rw [waited, ← same]
        exact List.mem_cons_self
      obtain ⟨version, toasts⟩ := parted.present waiting
      have snapshot : first.snapshot = engine.store.toasts :=
        parted.informed.current first (by simp [before]) current.symm
      exact ⟨current.symm.trans version, snapshot.trans toasts⟩

theorem parted {number : Nat} (informed : Informed start)
    (given : number ≤ start.store.subscriptions)
    (absent : number ∉ start.store.listeners.map (·.id)) (run : Run start finish) :
    run.Parted number := by
  induction run with
  | start =>
      exact ⟨informed, given, absent, by simp [deliveries], fun _ => ⟨rfl, rfl⟩,
        by simp [deliveries]⟩
  | @next engine after run event stride ih =>
      cases stride.tells with
      | silent store publications unheard =>
          have same : after.outstanding = engine.outstanding := by
            rw [outstanding, publications, store.version, outstanding]
          exact parted_unheard ih stride unheard (Nat.le_of_eq (by rw [same]))
            fun _ _ => ⟨store.version, store.toasts⟩
      | posts toasts store publications unheard =>
          -- A new snapshot is for those who are there, and the one that has gone is not.
          have none : number ∉ after.outstanding := by
            simpa [outstanding, publications] using ih.absent
          exact parted_unheard ih stride unheard (by simp [List.count_eq_zero.mpr none])
            fun waiting => absurd waiting none
      | served first store publications done unheard =>
          have none := ih.informed.outstanding_served store publications
          exact parted_unheard ih stride unheard (by simp [none]) (by simp [none])
      | delivers first listener pending rest store before next publications current heard =>
          exact parted_delivers ih stride store before next publications current heard

/-- Whoever waits for the present snapshot can be told of it. -/
theorem reaches {number version : Nat} {snapshot : List Toast} {pending : List Listener}
    {below : List Frame} (waiting : number ∈ pending.map (·.id)) {engine : Engine}
    (run : Run start engine) (top : engine.frames = .publish version snapshot pending :: below)
    (current : version = engine.store.version) :
    ∃ last, ∃ later : Run start last,
      ∃ delivery ∈ later.deliveries, delivery.listener = number := by
  induction pending generalizing engine with
  | nil => cases waiting
  | cons listener pending ih =>
      have stride := Stride.proceed _ _ top rfl
      have called : engine.step = { engine with
          frames := .caller (.deliver listener snapshot) ::
            .publish version snapshot pending :: below } := by
        simp [step, top, Engine.work, current, push]
      have heard : engine.delivery? engine.step = some ⟨listener.id, version, snapshot⟩ :=
        delivery?_deliver top (by rw [called])
      by_cases same : listener.id = number
      · exact ⟨_, run.next _ stride, ⟨listener.id, version, snapshot⟩,
          by simp [deliveries, heard], same⟩
      · have rest : number ∈ pending.map (·.id) := by
          simpa [Ne.symm same] using waiting
        rw [called] at stride
        exact ih rest ((run.next _ stride).next _ (.handBack _ _ rfl rfl)) rfl current

theorem reaches_below {number version : Nat} {snapshot : List Toast} {pending : List Listener}
    {above below : List Frame} (waiting : number ∈ pending.map (·.id))
    (idle : ∀ frame ∈ above, frame.isWork = false) {engine : Engine} (run : Run start engine)
    (split : engine.frames = above ++ .publish version snapshot pending :: below)
    (current : version = engine.store.version) :
    ∃ last, ∃ later : Run start last,
      ∃ delivery ∈ later.deliveries, delivery.listener = number := by
  induction above generalizing engine with
  | nil => exact reaches waiting run split current
  | cons first above ih =>
      obtain ⟨first', above'⟩ := List.forall_mem_cons.mp idle
      have stride := Stride.handBack _ _ split first'
      rw [resumeTurn_pops split first'] at stride
      exact ih above' (run.next _ stride) rfl current

theorem hushed (run : Run (fresh settings defaults now) finish) : finish.Hushed := by
  induction run with
  | start => exact hushed_of_silent rfl
  | next run event stride ih => exact stride.hushed run.accounted.informed ih

/-- An unsubscription keeps exactly those calls away that are not owed already. In every run,
whoever writes to the store and from within whatever deliveries: a listener that has unsubscribed is
never told of anything again exactly when it was not waiting for the present snapshot at that
moment; and in any case it is told of nothing but the present snapshot, and of that at most once.
The deliveries are all the calls of listeners, and no call escapes the count, since those that are
handed back and those under way have begun, or were under way at the unsubscription. -/
theorem unsubscription_exact (run : Run (fresh settings defaults now) before) {number : Nat}
    (given : number ≤ before.store.subscriptions)
    (stride : Stride before (.request (.unsubscribe number)) after) :
    ((∀ last, ∀ later : Run after last, ∀ delivery ∈ later.deliveries, delivery.listener ≠ number) ↔
      number ∉ before.outstanding) ∧
    ∀ last, ∀ later : Run after last, (later.deliveries.map (·.listener)).count number ≤ 1 ∧
      (∀ delivery ∈ later.deliveries, delivery.listener = number →
        delivery.number = before.store.version ∧ delivery.snapshot = before.store.toasts) ∧
      (later.callsEnded ++ last.underWay).Perm (later.callsBegun ++ before.underWay) ∧
      later.deliveries.map (fun delivery => (delivery.listener, delivery.snapshot)) =
        later.callsBegun.filterMap Call.delivered? := by
  cases stride with
  | request operation turn =>
      have accounted := run.accounted
      have gone : number ∉
          ((before.request (.unsubscribe number)).store.listeners.map (·.id)) := by
        simp [Engine.request, perform, Store.unsubscribe]
      have informed := (Stride.request (.unsubscribe number) turn).tells.informed accounted.informed
      have parts {last : Engine} (later : Run (before.request (.unsubscribe number)) last) :
          later.Parted number := parted informed given gone later
      have same : (before.request (.unsubscribe number)).outstanding = before.outstanding := rfl
      have once : before.outstanding.count number ≤ 1 := by
        have distinct := accounted.distinct
        rw [← accounted.complete] at distinct
        exact List.nodup_iff_count_le_one.mp (List.nodup_append.mp distinct).2.1 number
      refine ⟨⟨fun never waiting => ?_, fun spared last later delivery member own => ?_⟩,
        fun last later => ?_⟩
      -- The announcement that owes the call lies below nothing but calls and answers.
      · obtain ⟨version, snapshot, pending, above, below, split, current, pended⟩ :=
          outstanding_split waiting
        have idle := idle_of_turn (run.hushed above version snapshot pending below split current)
          turn split
        have answered : (before.request (.unsubscribe number)).frames =
            (.returned .done :: above) ++ .publish version snapshot pending :: below := by
          simp [Engine.request, perform, split]
        obtain ⟨last, later, delivery, member, own⟩ := reaches_below pended
          (List.forall_mem_cons.mpr ⟨rfl, idle⟩) .start answered current
        exact never last later delivery member own
      · have balance := (parts later).balance
        rw [same, List.count_eq_zero.mpr spared] at balance
        have told : 0 < (later.deliveries.map (·.listener)).count number :=
          List.count_pos_iff.mpr (List.mem_map.mpr ⟨delivery, member, own⟩)
        omega
      · have balance := (parts later).balance
        rw [same] at balance
        exact ⟨by omega, (parts later).known, later.calls_add_up, later.deliveries_begun⟩

theorem echoed_unsubscription :
    2 ≤ echoed.1.store.subscriptions ∧
    ∀ last, ∀ later : Run (echoed.1.request (.unsubscribe 2)) last,
      ∀ delivery ∈ later.deliveries, delivery.listener ≠ 2 := by
  have given : 2 ≤ echoed.1.store.subscriptions := by decide
  have told : 2 ∉ echoed.1.outstanding := by decide
  have stride := @Stride.request echoed.1 (.unsubscribe 2) (by decide)
  exact ⟨given, (unsubscription_exact echoed.2 given stride).1.mpr told⟩

def telling : Σ finish, Run (fresh {} {} 0) finish :=
  (echo.2.extend? [.proceed]).get rfl

/-- In its call the second one unsubscribes, and then the announcement goes on. -/
def unheeded : Σ finish, Run (telling.1.request (.unsubscribe 2)) finish :=
  (Run.start.extend? [.handBack, .handBack, .proceed]).get rfl

/-- The second listener is told of the toast after it has unsubscribed. -/
theorem unsubscribed_still_told :
    ∃ before after last, ∃ _ : Run (fresh {} {} 0) before, ∃ later : Run after last,
      Stride before (.request (.unsubscribe 2)) after ∧ 2 ≤ before.store.subscriptions ∧
      ∃ delivery ∈ later.deliveries, delivery.listener = 2 :=
  ⟨telling.1, _, _, telling.2, unheeded.2, .request _ rfl, by decide, by decide⟩

end Run

end Engine

end Toasts
