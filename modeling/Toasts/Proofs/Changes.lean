import Toasts.Proofs.Settlements

/-!
What an event changes in the list of toasts. An operation, a dismissal of a resumption and the end
of a wait each say beforehand what is to be done to the list: one live record is revised, begins its
exit or has its first paint noted, a new record is appended, or some records are removed. A stride
does just that, in one new snapshot, or finds nothing to do it to and leaves the list as it is.
-/

namespace Toasts

inductive Change where
  /-- Options are layered over the live record with this identity. -/
  | revision (id : ToastId)
  /-- A new record is appended, and one with its identity goes. -/
  | creation (toast : Toast)
  /-- The live record with this identity begins its exit. -/
  | departure (id : ToastId)
  /-- The first paint of the record with this identity is noted. -/
  | paint (id : ToastId)
  /-- The records that are doomed go. -/
  | removal (doomed : Toast → Bool)

theorem Toast.painted?_some {toast painted : Toast} (made : toast.painted? = some painted) :
    toast.lifecycle = .entering ∧ painted = { toast with lifecycle := .visible } := by
  obtain ⟨lifecycle, advanced, rfl⟩ := Option.map_eq_some_iff.mp made
  cases stage : toast.lifecycle <;> simp_all [Lifecycle.advance, Lifecycle.rank]

theorem Store.mem_replaceFirst {toasts : List Toast} {id : ToastId} {toast revised new : Toast}
    (found : find? toasts id = some toast) (member : new ∈ replaceFirst id revised toasts) :
    new = revised ∨ new ∈ toasts := by
  obtain ⟨above, below, rfl, _, _, replaced⟩ := find?_split found
  rw [replaced revised, List.mem_append, List.mem_cons] at member
  rw [List.mem_append, List.mem_cons]
  tauto

namespace Engine

variable {engine after : Engine} {event : Event} {id : ToastId} {options : Options}
  {change : Change}

def hasLive (engine : Engine) (id : ToastId) : Bool := (engine.get? id).any (·.isLive)

/-- What comes of showing a toast, which gets this number if it is a new one. -/
def showing (engine : Engine) (options : Options) (number : Nat) : Change :=
  match options.id.filter engine.hasLive with
  | some id => .revision id
  | none => .creation (Toast.create options engine.defaults engine.settings engine.screen number)

def tracking (engine : Engine) (work : PromiseOptions) : Options :=
  { work.loading with id := work.loading.id <|> engine.pending? work.loading.title }.atWork

def requested? (engine : Engine) : Operation → Option Change
  | .present options => some (engine.showing options (engine.numbers + 1))
  | .promise work => some (engine.showing (engine.tracking work) (engine.numbers + 2))
  | .update id _ => some (.revision id)
  | .settle number _ =>
      (engine.promises.find? (·.number = number)).map fun tracked => .revision tracked.toast
  | .dismiss id => some (.departure id)
  | .markVisible id => some (.paint id)
  | .clear position => some (.removal (Store.clears position))
  | _ => none

def change? (engine : Engine) : Event → Option Change
  | .request operation => engine.requested? operation
  | .proceed => match engine.frames with
      | .due (id :: _) :: _ => some (.departure id)
      | _ => none
  | .poll place => match (engine.agenda.bringForward place).next? with
      | some (_, some (.expire id generation)) =>
          if (engine.countdowns.expire? id generation).isSome then some (.departure id) else none
      | some (_, some (.remove id edition)) =>
          some (.removal fun toast => decide (toast.id = id) && toast.edition == edition)
      | _ => none
  | .handBack => none
  | .pass _ => none

inductive Makes (engine after : Engine) : Change → Prop where
  | revision (toast : Toast) (options : Options) (number : Nat)
      (found : engine.get? toast.id = some toast) (live : toast.exiting = false)
      (new : engine.numbers < number ∧ number ≤ after.numbers)
      (store : after.store = engine.store.swap (Store.replaceFirst toast.id
        (toast.revise options engine.settings engine.screen number) engine.store.toasts)) :
      Makes engine after (.revision toast.id)
  | creation (toast : Toast) (options : Options) (number : Nat)
      (made : toast = Toast.create options engine.defaults engine.settings engine.screen number)
      (new : engine.numbers < number ∧ number ≤ after.numbers)
      (store : after.store = engine.store.swap
        (engine.store.toasts.filter (·.id ≠ toast.id) ++ [toast])) :
      Makes engine after (.creation toast)
  | departure (toast : Toast) (found : engine.get? toast.id = some toast)
      (live : toast.exiting = false)
      (store : after.store = engine.store.swap
        (Store.replaceFirst toast.id toast.leave engine.store.toasts)) :
      Makes engine after (.departure toast.id)
  | paint (toast painted : Toast) (found : engine.get? toast.id = some toast)
      (made : toast.painted? = some painted)
      (store : after.store = engine.store.swap
        (Store.replaceFirst toast.id painted engine.store.toasts)) :
      Makes engine after (.paint toast.id)
  | removal (doomed : Toast → Bool) (some : ∃ toast ∈ engine.store.toasts, doomed toast = true)
      (store : after.store = engine.store.swap (engine.store.toasts.filter (!doomed ·))) :
      Makes engine after (.removal doomed)

/-- There is nothing that a change could be made to. -/
def Refuses (engine : Engine) : Change → Prop
  | .revision id => ∀ toast, engine.get? id = some toast → toast.exiting = true
  | .creation _ => False
  | .departure id => ∀ toast, engine.get? id = some toast → toast.exiting = true
  | .paint id => ∀ toast, engine.get? id = some toast → toast.painted? = none
  | .removal doomed => ∀ toast ∈ engine.store.toasts, doomed toast = false

inductive Edits (engine : Engine) (event : Event) (after : Engine) : Prop where
  | keeps (toasts : after.store.toasts = engine.store.toasts)
      (version : after.store.version = engine.store.version)
      (refused : ∀ change, engine.change? event = some change → engine.Refuses change)
  | makes (change : Change) (asked : engine.change? event = some change)
      (made : Makes engine after change)

theorem Edits.aside (store : after.store = engine.store) (none : engine.change? event = none) :
    Edits engine event after := by
  refine .keeps (by rw [store]) (by rw [store]) fun change asked => ?_
  rw [none] at asked
  cases asked

theorem Makes.beside {before later : Engine} (made : Makes before after change)
    (store : before.store = engine.store) (numbers : engine.numbers ≤ before.numbers)
    (settings : before.settings = engine.settings) (defaults : before.defaults = engine.defaults)
    (screen : before.screen = engine.screen) (sameStore : later.store = after.store)
    (sameNumbers : later.numbers = after.numbers) : Makes engine later change := by
  have look (id : ToastId) : before.get? id = engine.get? id := by rw [get?, get?, store]
  cases made with
  | revision toast options number found live new swapped =>
      rw [store, settings, screen] at swapped
      exact .revision toast options number (look toast.id ▸ found) live
        ⟨Nat.lt_of_le_of_lt numbers new.1, sameNumbers ▸ new.2⟩ (sameStore.trans swapped)
  | creation toast options number made new swapped =>
      rw [settings, defaults, screen] at made
      rw [store] at swapped
      exact .creation toast options number made
        ⟨Nat.lt_of_le_of_lt numbers new.1, sameNumbers ▸ new.2⟩ (sameStore.trans swapped)
  | departure toast found live swapped =>
      rw [store] at swapped
      exact .departure toast (look toast.id ▸ found) live (sameStore.trans swapped)
  | paint toast painted found made swapped =>
      rw [store] at swapped
      exact .paint toast painted (look toast.id ▸ found) made (sameStore.trans swapped)
  | removal doomed some swapped =>
      rw [store] at some swapped
      exact .removal doomed some (sameStore.trans swapped)

/-- What is true of every record that is built, and stays true in every change of a record, is true
of all records after a change if it was so before. -/
theorem Makes.each {holds : Toast → Prop} (made : Makes engine after change)
    (created : ∀ options number,
      holds (Toast.create options engine.defaults engine.settings engine.screen number))
    (revised : ∀ toast options number, holds toast → toast.exiting = false →
      holds (toast.revise options engine.settings engine.screen number))
    (left : ∀ toast, holds toast → holds toast.leave)
    (painted : ∀ toast painted, holds toast → toast.painted? = some painted → holds painted)
    (all : ∀ toast ∈ engine.store.toasts, holds toast) :
    ∀ toast ∈ after.store.toasts, holds toast := by
  have replaced {toast revised : Toast} (found : engine.get? toast.id = some toast)
      (sound : holds revised) (store : after.store = engine.store.swap
        (Store.replaceFirst toast.id revised engine.store.toasts)) :
      ∀ other ∈ after.store.toasts, holds other := by
    intro other member
    rw [store] at member
    rcases Store.mem_replaceFirst found member with rfl | kept
    · exact sound
    · exact all other kept
  cases made with
  | revision toast options number found live new store =>
      exact replaced found (revised toast options number (all toast (Store.mem_of_get? found)) live)
        store
  | creation toast options number made new store =>
      intro other member
      rw [store] at member
      rcases List.mem_append.mp member with kept | last
      · exact all other (List.mem_filter.mp kept).1
      · rw [List.mem_singleton.mp last, made]
        exact created options number
  | departure toast found live store =>
      exact replaced found (left toast (all toast (Store.mem_of_get? found))) store
  | paint toast seen found made store =>
      exact replaced found (painted toast seen (all toast (Store.mem_of_get? found)) made) store
  | removal doomed some store =>
      intro other member
      rw [store] at member
      exact all other (List.mem_filter.mp member).1

theorem hasLive_iff : engine.hasLive id = true ↔
    ∃ toast, engine.get? id = some toast ∧ toast.exiting = false := by
  simp [hasLive, Option.any_eq_true, Toast.isLive]

theorem revise?_none (refused : engine.revise? id options = none) (toast : Toast)
    (found : engine.get? id = some toast) : toast.exiting = true := by
  cases live : toast.exiting with
  | true => rfl
  | false =>
      rw [revise?_live found live] at refused
      cases refused

theorem revise?_makes (made : engine.revise? id options = some after) :
    Makes engine after (.revision id) := by
  obtain ⟨toast, found, live, _⟩ := get?_revised made
  obtain rfl := Store.id_of_get? found
  rw [revise?_live found live] at made
  obtain rfl := Option.some.inj made
  exact .revision toast options _ found live ⟨Nat.lt_succ_self _, Nat.le_refl _⟩ rfl

theorem append_makes (engine : Engine) (options : Options) : Makes engine (engine.append options).1
    (.creation (Toast.create options engine.defaults engine.settings engine.screen
      (engine.numbers + 1))) :=
  .creation _ options _ rfl ⟨Nat.lt_succ_self _, Nat.le_refl _⟩ rfl

theorem present_revised (engine : Engine) (found : options.id = some id)
    (live : engine.hasLive id = true) :
    ∃ revised, engine.revise? id options = some revised ∧
      engine.present options = (revised, id) := by
  obtain ⟨toast, present, alive⟩ := hasLive_iff.mp live
  have made := revise?_live present alive options
  exact ⟨_, made, by simp only [Engine.present, found, made]⟩

theorem present_appended (engine : Engine)
    (gone : ∀ id, options.id = some id → engine.hasLive id = false) :
    engine.present options = engine.append options := by
  simp only [Engine.present]
  split
  next id asked =>
      have dead : ∀ toast, engine.get? id = some toast → toast.exiting = true := by
        intro toast found
        simpa [hasLive, found, Toast.isLive] using gone id asked
      rw [revise?_gone dead]
  next => rfl

theorem present_makes (engine : Engine) (options : Options) :
    Makes engine (engine.present options).1 (engine.showing options (engine.numbers + 1)) := by
  rw [showing]
  split
  next id asked =>
      obtain ⟨asked, live⟩ := Option.filter_eq_some_iff.mp asked
      obtain ⟨revised, made, shape⟩ := present_revised engine asked live
      rw [shape]
      exact revise?_makes made
  next none =>
      have gone : ∀ id, options.id = some id → engine.hasLive id = false := by
        intro id asked
        simpa [asked] using none
      rw [present_appended engine gone]
      exact append_makes engine options

theorem dismiss?_makes {cause : Cause} (made : engine.dismiss? id cause = some after) :
    Makes engine after (.departure id) := by
  simp only [dismiss?] at made
  split at made
  next => cases made
  next toast found =>
      split at made
      next live =>
          obtain ⟨store, updated, rfl⟩ := Option.map_eq_some_iff.mp made
          obtain ⟨other, changed, found', change, rfl⟩ := Store.update?_some updated
          obtain rfl : other = toast := Option.some.inj (found'.symm.trans found)
          obtain rfl := Option.some.inj change
          obtain rfl := Store.id_of_get? found'
          exact .departure other found (by simpa [Toast.isLive] using live) rfl
      next => cases made

theorem departure_edits {before : Engine} {cause : Cause}
    (asked : engine.change? event = some (.departure id)) (store : before.store = engine.store)
    (numbers : before.numbers = engine.numbers) (settings : before.settings = engine.settings)
    (defaults : before.defaults = engine.defaults) (screen : before.screen = engine.screen) :
    Edits engine event ((before.dismiss? id cause).getD before) := by
  cases dismissed : before.dismiss? id cause with
  | some later =>
      exact .makes _ asked ((dismiss?_makes dismissed).beside store (Nat.le_of_eq numbers.symm)
        settings defaults screen rfl rfl)
  | none =>
      refine .keeps (congrArg Store.toasts store) (congrArg Store.version store) ?_
      intro change other
      obtain rfl := Option.some.inj (asked.symm.trans other)
      intro toast found
      have look : before.get? id = engine.get? id := by rw [get?, get?, store]
      exact dismiss?_none dismissed toast (look.trans found)

theorem revision_edits {before : Engine} (asked : engine.change? event = some (.revision id))
    (options : Options) (store : before.store = engine.store)
    (numbers : before.numbers = engine.numbers) (settings : before.settings = engine.settings)
    (defaults : before.defaults = engine.defaults) (screen : before.screen = engine.screen) :
    Edits engine event ((before.revise? id options).getD before) := by
  cases revised : before.revise? id options with
  | some later =>
      exact .makes _ asked ((revise?_makes revised).beside store (Nat.le_of_eq numbers.symm)
        settings defaults screen rfl rfl)
  | none =>
      refine .keeps (congrArg Store.toasts store) (congrArg Store.version store) ?_
      intro change other
      obtain rfl := Option.some.inj (asked.symm.trans other)
      intro toast found
      have look : before.get? id = engine.get? id := by rw [get?, get?, store]
      exact revise?_none revised toast (look.trans found)

theorem orRefuse_fst (engine : Engine) (changed : Option Engine) :
    (engine.orRefuse changed).1 = changed.getD engine := by
  cases changed <;> rfl

theorem perform_edits (engine : Engine) (operation : Operation)
    (managed : operation.isWrite = false) :
    Edits engine (.request operation) (engine.perform operation).1 := by
  cases operation with
  | present options => exact .makes _ rfl (present_makes engine options)
  | update id options =>
      rw [perform, orRefuse_fst]
      exact revision_edits rfl options rfl rfl rfl rfl rfl
  | dismiss id =>
      rw [perform, orRefuse_fst]
      exact departure_edits rfl rfl rfl rfl rfl rfl
  | clear position =>
      cases cleared : engine.store.clear? position with
      | some store =>
          obtain ⟨rfl, some⟩ := Store.removeWhere?_some cleared
          simp only [perform, cleared]
          exact .makes _ rfl (.removal _ some rfl)
      | none =>
          simp only [perform, cleared]
          refine .keeps rfl rfl ?_
          rintro change ⟨⟩
          exact Store.removeWhere?_none cleared
  | markVisible id =>
      cases painted : engine.store.update? id Toast.painted? with
      | some store =>
          obtain ⟨toast, made, found, change, rfl⟩ := Store.update?_some painted
          obtain rfl := Store.id_of_get? found
          simp only [perform, painted, Option.map_some, orRefuse]
          exact .makes _ rfl (.paint toast made found change rfl)
      | none =>
          simp only [perform, painted, Option.map_none, orRefuse]
          refine .keeps rfl rfl ?_
          rintro change ⟨⟩ toast found
          have found' : engine.store.get? id = some toast := found
          simpa [Store.update?, found'] using painted
  | promise work =>
      -- The work takes a number of its own before its toast is shown.
      have made := present_makes { engine with numbers := engine.numbers + 1 }
        (engine.tracking work)
      exact .makes _ rfl (made.beside rfl (Nat.le_succ _) rfl rfl rfl rfl rfl)
  | settle number outcome =>
      simp only [perform, settle]
      cases found : engine.promises.find? (·.number = number) with
      | none => exact .aside rfl (by simp [change?, requested?, found])
      | some tracked =>
          exact revision_edits (by simp [change?, requested?, found]) _ rfl rfl rfl rfl rfl
  | subscribe hook =>
      refine .keeps rfl rfl ?_
      rintro change ⟨⟩
  | unsubscribe number =>
      refine .keeps rfl rfl ?_
      rintro change ⟨⟩
  | click id =>
      simp only [perform]
      split <;> exact .aside rfl rfl
  | write change => simp [Operation.isWrite] at managed
  | _ => exact .aside rfl rfl

theorem proceed_edits (frame : Frame) (rest : List Frame) (top : engine.frames = frame :: rest)
    (work : frame.isWork = true) : Edits engine .proceed engine.step := by
  cases frame with
  | caller call => cases work
  | returned answer => cases work
  | due ids =>
      cases ids with
      | nil => exact .aside (by simp [step, top, Engine.work]) (by simp [change?, top])
      | cons id ids =>
          have shape : engine.step = (({ engine with frames := .due ids :: rest }.dismiss? id
              .countdown).getD { engine with frames := .due ids :: rest }) := by
            simp [step, top, Engine.work, push]
          rw [shape]
          exact departure_edits (by simp [change?, top]) rfl rfl rfl rfl rfl
  | publish version snapshot pending =>
      apply Edits.aside
      · cases pending with
        | nil => simp [step, top, Engine.work]
        | cons listener pending =>
            simp only [step, top, Engine.work]
            split <;> rfl
      · simp [change?, top]
  | arm id lifespan =>
      obtain ⟨countdowns, agenda, shape⟩ := arm_shape { engine with frames := rest } id lifespan
      exact .aside (by simp [step, top, Engine.work, shape]) (by simp [change?, top])
  | disarm ids =>
      obtain ⟨countdowns, shape⟩ := disarm_shape { engine with frames := rest } ids
      exact .aside (by simp [step, top, Engine.work, shape]) (by simp [change?, top])
  | _ => exact .aside (by simp [step, top, Engine.work, push]) (by simp [change?, top])

theorem poll_edits (place : Nat) (taken : engine.pollAt? place = some after) :
    Edits engine (.poll place) after := by
  simp only [pollAt?, poll?] at taken
  split at taken
  next => cases taken
  next agenda next =>
      obtain rfl := Option.some.inj taken
      exact .aside rfl (by simp [change?, next])
  next agenda deed next =>
      obtain rfl := Option.some.inj taken
      cases deed with
      | expire id generation =>
          simp only [act]
          split
          next countdowns countdown expired =>
              exact departure_edits (by simp [change?, next, expired]) rfl rfl rfl rfl rfl
          next missed => exact .aside rfl (by simp [change?, next, missed])
      | remove id edition =>
          have asked : engine.change? (.poll place) = some (.removal fun toast =>
              decide (toast.id = id) && toast.edition == edition) := by simp [change?, next]
          simp only [act]
          split
          next store removed =>
              obtain ⟨rfl, some⟩ := Store.removeWhere?_some removed
              exact .makes _ asked (.removal _ some rfl)
          next missed =>
              refine .keeps rfl rfl ?_
              intro change other
              obtain rfl := Option.some.inj (asked.symm.trans other)
              exact Store.removeWhere?_none missed
      | errand ticket => exact .aside rfl (by simp [change?, next])

theorem Stride.edits (stride : Stride engine event after) (managed : event.isManaged = true) :
    Edits engine event after := by
  cases stride with
  | request operation turn =>
      have edits := perform_edits { engine with frames := [] } operation
        (by simpa [Event.isManaged] using managed)
      cases edits with
      | keeps toasts version refused => exact .keeps toasts version refused
      | makes change asked made =>
          exact .makes change asked (made.beside rfl (Nat.le_refl _) rfl rfl rfl rfl rfl)
  | proceed frame rest top work => exact proceed_edits frame rest top work
  | handBack frame rest top idle =>
      apply Edits.aside
      · simp only [resumeTurn]
        split <;> rfl
      · rfl
  | poll place after idle taken => exact poll_edits place taken
  | pass moment idle later => exact .aside rfl rfl

end Engine

end Toasts
