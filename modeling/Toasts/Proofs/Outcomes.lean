import Toasts.Proofs.Sequels

/-!
Tracked pieces of work that do not meet. As long as the toast of each is left to it, that toast is at
work and stays up until the work is settled, whatever becomes of other toasts meanwhile. Then the
settlement revises it in its place, if it is still live, to the kind and the lifespan that go with
the outcome, and touches nothing else.
-/

namespace Toasts

def Change.shown? : Change → Option ToastId
  | .revision id => some id
  | .creation toast => some toast.id
  | _ => none

def Event.settled? : Event → Option Nat
  | .request (.settle number _) => some number
  | _ => none

namespace PromiseOptions

def resolved (options : PromiseOptions) : Outcome → Options
  | .fulfilled value => (options.action.getD options.success.resolve) value
  | .rejected reason => options.error.resolve reason

def settledKind (options : PromiseOptions) : Outcome → Kind
  | .fulfilled _ => if options.action.isSome then .action else .success
  | .rejected _ => .error

theorem settled_eq (options : PromiseOptions) (outcome : Outcome) :
    options.settled outcome = (options.resolved outcome).ofKind (options.settledKind outcome) := by
  cases outcome with
  | fulfilled value => cases action : options.action <;> simp [settled, resolved, settledKind, action]
  | rejected reason => rfl

theorem settledKind_ne (options : PromiseOptions) (outcome : Outcome) :
    options.settledKind outcome ≠ .loading := by
  cases outcome with
  | fulfilled value => cases action : options.action <;> simp [settledKind, action]
  | rejected reason => simp [settledKind]

end PromiseOptions

structure Toast.AtWork (toast : Toast) : Prop where
  kind : toast.kind = .loading
  lifespan : toast.lifespan = .persistent

namespace Toast

theorem revise_atWork (toast : Toast) (options : Options) (settings : Settings) (screen : Screen)
    (number : Nat) : (toast.revise options.atWork settings screen number).AtWork := ⟨rfl, rfl⟩

theorem create_atWork (options : Options) (defaults : Defaults) (settings : Settings)
    (screen : Screen) (number : Nat) :
    (create options.atWork defaults settings screen number).AtWork := ⟨rfl, rfl⟩

theorem AtWork.call {toast : Toast} (atWork : toast.AtWork) : toast.call = none := by
  simp [Toast.call, atWork.lifespan, Lifespan.countdown]

/-- A toast that was at work settles with a lifespan of its own, or with that of the settings. -/
theorem AtWork.settle {toast : Toast} (atWork : toast.AtWork) (options : PromiseOptions)
    (outcome : Outcome) (settings : Settings) (screen : Screen) (number : Nat) :
    let revised := toast.revise (options.settled outcome) settings screen number
    revised.kind = options.settledKind outcome ∧
      revised.lifespan = (options.resolved outcome).lifespan.getD settings.lifespan := by
  rw [options.settled_eq]
  refine ⟨rfl, ?_⟩
  have done := options.settledKind_ne outcome
  cases explicit : (options.resolved outcome).lifespan with
  | some lifespan => simp [revise, revisedLifespan, Options.ofKind, explicit]
  | none => simp [revise, revisedLifespan, Options.ofKind, explicit, done, atWork.kind]

end Toast

namespace Engine

variable {engine after : Engine} {event : Event} {change : Change} {id : ToastId}

def WorksUnder (engine : Engine) (id : ToastId) : Prop :=
  ∀ toast, engine.get? id = some toast → toast.AtWork

theorem WorksUnder.called (works : engine.WorksUnder id) : engine.called id = none := by
  rw [Engine.called, Option.bind_eq_none_iff]
  exact fun toast found => (works toast found).call

theorem worksUnder_replaced {toast revised : Toast} (found : engine.get? toast.id = some toast)
    (same : revised.id = toast.id) (store : after.store = engine.store.swap
      (Store.replaceFirst toast.id revised engine.store.toasts))
    (kept : toast.id = id → toast.AtWork → revised.AtWork) (works : engine.WorksUnder id) :
    after.WorksUnder id := by
  intro other present
  rw [get?_replaced found same (congrArg Store.toasts store) id] at present
  split at present
  next hit =>
      obtain rfl := Option.some.inj present
      exact kept hit (works toast (hit ▸ found))
  next => exact works other present

theorem Makes.worksUnder (made : Makes engine after change) (orderly : Orderly engine)
    (apart : change.shown? ≠ some id) (works : engine.WorksUnder id) : after.WorksUnder id := by
  cases made with
  | revision toast options number found live new store =>
      exact worksUnder_replaced found (by rfl) store
        (fun hit => absurd (congrArg some hit) apart) works
  | creation toast options number made new store =>
      have other : toast.id ≠ id := fun hit => apart (congrArg some hit)
      intro toast present
      rw [get?_put (congrArg Store.toasts store) id, if_neg other] at present
      exact works toast present
  | departure toast found live store =>
      exact worksUnder_replaced found (by rfl) store (fun _ before => ⟨before.kind, before.lifespan⟩)
        works
  | paint toast painted found made store =>
      obtain ⟨_, rfl⟩ := Toast.painted?_some made
      exact worksUnder_replaced found (by rfl) store (fun _ before => ⟨before.kind, before.lifespan⟩)
        works
  | removal doomed some store =>
      intro toast present
      rw [orderly.get?_filter (congrArg Store.toasts store) id] at present
      exact works toast (Option.filter_eq_some_iff.mp present).1

def shown? (engine : Engine) (event : Event) : Option ToastId :=
  (engine.change? event).bind Change.shown?

theorem Edits.worksUnder (edits : Edits engine event after) (orderly : Orderly engine)
    (apart : engine.shown? event ≠ some id) (works : engine.WorksUnder id) :
    after.WorksUnder id := by
  cases edits with
  | keeps toasts version refused =>
      intro toast present
      exact works toast (get?_congr toasts id ▸ present)
  | makes change asked made =>
      rw [shown?, asked] at apart
      exact made.worksUnder orderly apart works

theorem Presented.shown? {options : Options}
    (presented : Presented engine options id after.store.toasts) :
    (engine.showing options (engine.numbers + 1)).shown? = some id := by
  cases presented with
  | refreshed toast named found live made =>
      have asked : options.id.filter engine.hasLive = some id :=
        Option.filter_eq_some_iff.mpr ⟨named, hasLive_iff.mpr ⟨toast, found, live⟩⟩
      rw [showing, asked]
      rfl
  | created toast dead made answer appended =>
      have unasked : options.id.filter engine.hasLive = none := by
        simpa [Option.filter_eq_none_iff] using dead
      rw [showing, unasked, ← made]
      exact congrArg some answer

theorem Presented.atWork {options : Options}
    (presented : Presented engine options.atWork id after.store.toasts) :
    ∃ toast, after.get? id = some toast ∧ toast.exiting = false ∧ toast.AtWork := by
  cases presented with
  | refreshed toast named found live made =>
      obtain rfl := Store.id_of_get? found
      exact ⟨_, (get?_replaced found (by rfl) made _).trans (if_pos rfl), rfl,
        toast.revise_atWork _ _ _ _⟩
  | created toast dead made answer appended =>
      subst answer
      refine ⟨toast, (get?_put appended _).trans (if_pos rfl), ?_, ?_⟩
      · rw [made]
        rfl
      · rw [made]
        exact Toast.create_atWork _ _ _ _ _

theorem Stride.begun {work : PromiseOptions}
    (stride : Stride engine (.request (.promise work)) after) :
    ∃ tracked, after.promises = tracked :: engine.promises ∧
      engine.shown? (.request (.promise work)) = some tracked.toast ∧
      ∃ toast, after.get? tracked.toast = some toast ∧ toast.exiting = false ∧ toast.AtWork := by
  cases stride with
  | request operation turn =>
      obtain ⟨id, _, _, _, _, _, promises, presented⟩ := request_promise engine work
      exact ⟨_, promises, presented.shown?, presented.atWork⟩

theorem Stride.settled {number : Nat} {outcome : Outcome}
    (stride : Stride engine (.request (.settle number outcome)) after) :
    after.promises = engine.promises.filter (·.number ≠ number) := by
  cases stride with
  | request operation turn =>
      simp only [Engine.request, Engine.perform, Engine.settle]
      split
      next missing =>
          have others : ∀ tracked ∈ engine.promises, decide (tracked.number ≠ number) = true := by
            simpa using List.find?_eq_none.mp missing
          exact (List.filter_eq_self.mpr others).symm
      next tracked _ =>
          cases made : revise? { engine with
              frames := [], promises := engine.promises.filter (·.number ≠ number) } tracked.toast
              (tracked.options.settled outcome) with
          | none => rfl
          | some revised => exact revise?_promises made

/-- Every piece of work that is tracked has a toast of its own, which is at work. -/
structure InHand (engine : Engine) : Prop where
  distinct : (engine.promises.map (·.toast)).Nodup
  works : ∀ tracked ∈ engine.promises, engine.WorksUnder tracked.toast

/-- An event puts up or revises the toast of a tracked piece of work only to settle that work. -/
def Spares (engine : Engine) (event : Event) : Prop :=
  ∀ tracked ∈ engine.promises, engine.shown? event = some tracked.toast →
    event.settled? = some tracked.number

instance (engine : Engine) (event : Event) : Decidable (engine.Spares event) :=
  inferInstanceAs (Decidable (∀ tracked ∈ engine.promises, _ → _))

theorem Stride.inHand (stride : Stride engine event after) (managed : event.isManaged = true)
    (orderly : Orderly engine) (spares : engine.Spares event) (inHand : InHand engine) :
    InHand after := by
  have goesOn : ∀ tracked ∈ engine.promises, event.settled? ≠ some tracked.number →
      after.WorksUnder tracked.toast := fun tracked member unsettled =>
    (stride.edits managed).worksUnder orderly (fun same => unsettled (spares tracked member same))
      (inHand.works tracked member)
  cases tracking : event.isTracking with
  | false =>
      have unsettled : ∀ number, event.settled? ≠ some number := by
        rintro number same
        unfold Event.settled? at same
        split at same
        next => cases tracking
        next => cases same
      have promises := stride.promises managed tracking
      exact ⟨promises ▸ inHand.distinct, fun tracked member =>
        goesOn tracked (promises ▸ member) (unsettled _)⟩
  | true =>
      cases event with
      | request operation =>
          cases operation with
          | promise work =>
              obtain ⟨begun, promises, shown, toast, found, _, atWork⟩ := stride.begun
              have others : ∀ tracked ∈ engine.promises, tracked.toast ≠ begun.toast := by
                intro tracked member same
                cases spares tracked member (same ▸ shown)
              constructor
              · rw [promises, List.map_cons, List.nodup_cons]
                refine ⟨fun twin => ?_, inHand.distinct⟩
                obtain ⟨tracked, member, same⟩ := List.mem_map.mp twin
                exact others tracked member same
              · intro tracked member
                rw [promises] at member
                rcases List.mem_cons.mp member with rfl | old
                · intro other present
                  obtain rfl := Option.some.inj (found.symm.trans present)
                  exact atWork
                · exact goesOn tracked old nofun
          | settle number outcome =>
              have promises := stride.settled
              constructor
              · rw [promises]
                exact inHand.distinct.sublist (List.filter_sublist.map _)
              · intro tracked member
                rw [promises] at member
                obtain ⟨old, other⟩ := List.mem_filter.mp member
                refine goesOn tracked old fun same => ?_
                exact of_decide_eq_true other (Option.some.inj same).symm
          | _ => cases tracking
      | _ => cases tracking

/-- The live toast of a tracked piece of work is revised, in its place and it alone, to the kind that
goes with the outcome, and to the lifespan that is asked for or else that of the settings. It has a
countdown of just that lifespan. -/
def Concludes (before after : Engine) (tracked : Tracked) (outcome : Outcome) (toast : Toast) :
    Prop :=
  ∃ above below revised number, before.store.toasts = above ++ toast :: below ∧
    after.store.toasts = above ++ revised :: below ∧
    revised = toast.revise (tracked.options.settled outcome) before.settings before.screen number ∧
    revised.kind = tracked.options.settledKind outcome ∧
    revised.lifespan = (tracked.options.resolved outcome).lifespan.getD before.settings.lifespan ∧
    after.remaining? tracked.toast = revised.lifespan.countdown

/-- What is promised of the settlement of a tracked piece of work: its toast, if that is live, takes
on what the work came to, and nothing else changes. -/
structure Settles (before after : Engine) (tracked : Tracked) (outcome : Outcome) : Prop where
  live : ∀ toast, before.get? tracked.toast = some toast → toast.exiting = false →
    Concludes before after tracked outcome toast
  gone : (∀ toast, before.get? tracked.toast = some toast → toast.exiting = true) →
    after.store.toasts = before.store.toasts ∧
      after.remaining? tracked.toast = before.remaining? tracked.toast
  others : ∀ id, id ≠ tracked.toast → after.remaining? id = before.remaining? id
  tracking : after.promises = before.promises.filter (·.number ≠ tracked.number)
  now : after.now = before.now

/-- A settlement acts at once: its toast, if that is live, is revised in its place, and an
announcement and a countdown are left to do. -/
theorem Stride.revises {tracked : Tracked} {toast : Toast} {outcome : Outcome}
    (stride : Stride engine (.request (.settle tracked.number outcome)) after)
    (enlisted : Enlisted engine) (member : tracked ∈ engine.promises)
    (found : engine.get? tracked.toast = some toast) (live : toast.exiting = false) :
    let revised := toast.revise (tracked.options.settled outcome) engine.settings engine.screen
      (engine.numbers + 1)
    after.store.toasts = Store.replaceFirst tracked.toast revised engine.store.toasts ∧
      ∃ version snapshot pending, after.frames =
        [.publish version snapshot pending, .arm tracked.toast revised.lifespan] ++
          .returned (.outcome outcome) :: engine.frames := by
  cases stride with
  | request operation turn =>
      have found' : (engine.untracked tracked.number).get? tracked.toast = some toast := found
      rw [request_settle enlisted member, revise?_live found' live]
      exact ⟨rfl, _, _, _, rfl⟩

theorem Stride.ignores {tracked : Tracked} {outcome : Outcome}
    (stride : Stride engine (.request (.settle tracked.number outcome)) after)
    (enlisted : Enlisted engine) (member : tracked ∈ engine.promises)
    (gone : ∀ toast, engine.get? tracked.toast = some toast → toast.exiting = true) :
    after.store.toasts = engine.store.toasts ∧
      after.frames = .returned (.outcome outcome) :: engine.frames := by
  cases stride with
  | request operation turn =>
      rw [settle_gone enlisted member gone]
      exact ⟨rfl, rfl⟩

namespace Run

variable {settings : Settings} {defaults : Defaults} {now : Nat} {start finish : Engine}

/-- A run in which each tracked piece of work is left alone with its toast. -/
def Separate (run : Run start finish) : Prop := run.All Engine.Spares

instance (run : Run start finish) : Decidable run.Separate :=
  inferInstanceAs (Decidable (run.All _))

theorem inHand (run : Run (fresh settings defaults now) finish) (managed : run.Managed)
    (separate : run.Separate) : InHand finish := by
  induction run with
  | start => exact ⟨List.nodup_nil, by simp [fresh]⟩
  | next run event stride ih =>
      exact stride.inHand managed.2 (run.orderly managed.1) separate.2 (ih managed.1 separate.1)

theorem Quiet.promises {below : List Frame} {call : Run start finish} (quiet : call.Quiet below) :
    finish.promises = start.promises := by
  induction call with
  | start => rfl
  | next call event stride ih =>
      have untracking : event.isTracking = false := by
        cases event <;> first | rfl | cases quiet.2.1
      exact (stride.promises (Event.isManaged_of_own quiet.2.1) untracking).trans (ih quiet.1)

variable {before after : Engine} {tracked : Tracked} {outcome : Outcome}

theorem settle_calm (stride : Stride before (.request (.settle tracked.number outcome)) after)
    (enlisted : Enlisted before) (member : tracked ∈ before.promises) :
    after.Calm (.returned (.outcome outcome) :: before.frames) ∧
      ∃ final, ∃ call : Run after final,
        call.Returns (.returned (.outcome outcome) :: before.frames) := by
  have quiet : Quiet (.returned (.outcome outcome) :: before.frames) (.start : Run after after) :=
    trivial
  rcases before.gone_or_live tracked.toast with gone | ⟨toast, found, live⟩
  · have frames := (stride.ignores enlisted member gone).2
    exact ⟨⟨[], frames, by simp⟩, after, .start, quiet, frames⟩
  · obtain ⟨_, version, snapshot, pending, frames⟩ := stride.revises enlisted member found live
    exact ⟨⟨_, frames, by simp [Frame.isCalm]⟩, quiet.returns frames⟩

theorem settled_live {toast : Toast} {final : Engine} {call : Run after final}
    (run : Run (fresh settings defaults now) before) (passive : run.Passive)
    (rest : before.AtRest) (member : tracked ∈ before.promises) (atWork : toast.AtWork)
    (found : before.get? tracked.toast = some toast) (live : toast.exiting = false)
    (stride : Stride before (.request (.settle tracked.number outcome)) after)
    (returns : call.Returns (.returned (.outcome outcome) :: before.frames)) :
    Concludes before final tracked outcome toast ∧
      ∀ {last} (later : Run final last), later.Passive → last.AtRest →
        last.remaining? tracked.toast = later.lifetime? tracked.toast := by
  have managed := passive.managed
  have enlisted := run.enlisted managed
  obtain ⟨toasts, -⟩ := stride.revises enlisted member found live
  have same := (Quiet.calm returns.1 (settle_calm stride enlisted member).1).2
  obtain ⟨kind, lifespan⟩ := atWork.settle tracked.options outcome before.settings before.screen
    (before.numbers + 1)
  set revised := toast.revise (tracked.options.settled outcome) before.settings before.screen
    (before.numbers + 1) with made
  have id : toast.id = tracked.toast := Store.id_of_get? found
  have present : after.get? tracked.toast = some revised := by
    rw [← id] at found toasts ⊢
    exact (get?_replaced found (by rfl) toasts _).trans (if_pos rfl)
  have new : ¬SameEdition before after tracked.toast := by
    have numbered := (run.orderly managed).numbered toast (Store.mem_of_get? found)
    have edition : revised.edition = before.numbers + 1 := rfl
    simp only [SameEdition, present, found, Option.map_some, Option.some.injEq]
    omega
  obtain ⟨whole, later⟩ := returns.remaining?_new passive rest rfl stride new
  refine ⟨?_, later⟩
  obtain ⟨above, below, split, _, _, replaced⟩ := Store.find?_split found
  refine ⟨above, below, revised, _, split, ?_, made, kind, lifespan, ?_⟩
  · rw [same, toasts, replaced]
  · rw [whole, Engine.called, get?_congr same, present]
    rfl

theorem settled_gone {final : Engine} {call : Run after final}
    (run : Run (fresh settings defaults now) before) (passive : run.Passive)
    (rest : before.AtRest) (member : tracked ∈ before.promises)
    (stride : Stride before (.request (.settle tracked.number outcome)) after)
    (returns : call.Returns (.returned (.outcome outcome) :: before.frames))
    (gone : ∀ toast, before.get? tracked.toast = some toast → toast.exiting = true) :
    final.store.toasts = before.store.toasts ∧
      final.remaining? tracked.toast = before.remaining? tracked.toast := by
  have enlisted := run.enlisted passive.managed
  have calm := (settle_calm stride enlisted member).1
  obtain ⟨toasts, _⟩ := stride.ignores enlisted member gone
  exact ⟨(Quiet.calm returns.1 calm).2.trans toasts,
    returns.remaining?_same passive rest rfl stride calm (get?_congr toasts _)⟩

theorem settles_of_returns {final : Engine} {call : Run after final}
    (run : Run (fresh settings defaults now) before) (passive : run.Passive)
    (rest : before.AtRest) (member : tracked ∈ before.promises)
    (works : before.WorksUnder tracked.toast)
    (stride : Stride before (.request (.settle tracked.number outcome)) after)
    (returns : call.Returns (.returned (.outcome outcome) :: before.frames)) :
    Settles before final tracked outcome where
  live toast found live :=
    (settled_live run passive rest member (works toast found) found live stride returns).1
  gone := settled_gone run passive rest member stride returns
  others id other := by
    have enlisted := run.enlisted passive.managed
    have look : after.get? id = before.get? id := by
      rcases before.gone_or_live tracked.toast with gone | ⟨toast, found, live⟩
      · exact get?_congr (stride.ignores enlisted member gone).1 id
      · obtain ⟨toasts, _⟩ := stride.revises enlisted member found live
        have same : toast.id = tracked.toast := Store.id_of_get? found
        rw [← same] at found toasts other
        exact (get?_replaced found (by rfl) toasts id).trans (if_neg (Ne.symm other))
    exact returns.remaining?_same passive rest rfl stride (settle_calm stride enlisted member).1 look
  tracking := (Quiet.promises returns.1).trans stride.settled
  now := (Quiet.now returns.1).trans ((stride.move rfl).now nofun)

/-- Tracked pieces of work settle independently of all else. In a run in which listeners and
callbacks ask for nothing and each tracked piece of work is left alone with its toast: no two are
tracked with the same toast; a toast that is put up or taken over for a piece of work is live; until
the work is settled its record, as long as it is there, is at work and stays up, and at rest has no
countdown; and a settlement comes to an end, hands back its outcome, and does what is promised of it.
If the toast is live, then from there on what is left of its countdown is what has not passed since. -/
theorem settlements_separate (run : Run (fresh settings defaults now) finish)
    (passive : run.Passive) (separate : run.Separate) :
    (finish.promises.map (·.toast)).Nodup ∧
    (∀ {work after}, Stride finish (.request (.promise work)) after →
      ∃ tracked toast, after.promises = tracked :: finish.promises ∧ tracked.options = work ∧
        after.get? tracked.toast = some toast ∧ toast.exiting = false) ∧
    (∀ tracked ∈ finish.promises, ∀ toast, finish.get? tracked.toast = some toast →
      toast.kind = .loading ∧ toast.lifespan = .persistent) ∧
    (finish.AtRest → ∀ tracked ∈ finish.promises, finish.remaining? tracked.toast = none ∧
      ∀ {outcome after}, Stride finish (.request (.settle tracked.number outcome)) after →
        (∃ pushed, after.frames = pushed ++ .returned (.outcome outcome) :: finish.frames) ∧
        (∃ final, ∃ call : Run after final,
          call.Returns (.returned (.outcome outcome) :: finish.frames)) ∧
        ∀ {final} (call : Run after final),
          call.Returns (.returned (.outcome outcome) :: finish.frames) →
            Settles finish final tracked outcome ∧
            ∀ toast, finish.get? tracked.toast = some toast → toast.exiting = false →
              ∀ {last} (later : Run final last), later.Passive → last.AtRest →
                last.remaining? tracked.toast = later.lifetime? tracked.toast) := by
  have managed := passive.managed
  have inHand := run.inHand managed separate
  refine ⟨inHand.distinct, fun stride => stride.tracked, ?_, fun rest tracked member => ⟨?_, ?_⟩⟩
  · intro tracked member toast found
    exact ⟨(inHand.works tracked member toast found).kind,
      (inHand.works tracked member toast found).lifespan⟩
  · rw [remaining?_lifetime run managed (passive.apart _) rest, lifetime?,
      (inHand.works tracked member).called]
    rfl
  · intro outcome after stride
    have works := inHand.works tracked member
    obtain ⟨⟨pushed, frames, _⟩, ends⟩ := settle_calm stride (run.enlisted managed) member
    refine ⟨⟨pushed, frames⟩, ends, fun call returns =>
      ⟨settles_of_returns run passive rest member works stride returns, fun toast found live => ?_⟩⟩
    exact (settled_live run passive rest member (works toast found) found live stride returns).2

def errandOf (name : String) : PromiseOptions where
  loading := { id := some (.named name), title := some name }
  success := .fixed { title := some "Done", kind := some .warning }
  error := .fixed { title := some "Failed", lifespan := some .persistent }

/-- Two pieces of work are tracked, the countdowns pause, and a second passes. -/
def inFlight : Σ finish, Run (fresh {} {} 0) finish :=
  (Run.start.extend? [.request (.promise (errandOf "a")), .proceed, .proceed, .handBack,
    .request (.promise (errandOf "b")), .proceed, .proceed, .handBack, .request .pause, .handBack,
    .pass 1000]).get rfl

def firstSettled : Σ finish, Run (inFlight.1.request (.settle 1 (.fulfilled "v"))) finish :=
  (Run.start.extend? [.proceed, .proceed]).get rfl

theorem inFlight_settles : inFlight.2.Passive ∧ inFlight.2.Separate ∧ inFlight.1.AtRest ∧
    ∃ tracked ∈ inFlight.1.promises, tracked.toast = .named "a" ∧
      firstSettled.2.Returns (.returned (.outcome (.fulfilled "v")) :: inFlight.1.frames) ∧
      Settles inFlight.1 firstSettled.1 tracked (.fulfilled "v") ∧
      (firstSettled.1.get? (.named "a")).map (·.kind) = some .success ∧
      firstSettled.1.remaining? (.named "a") = some (Span.ofMillis 6000) := by
  have stride : Stride inFlight.1 (.request (.settle 1 (.fulfilled "v"))) _ := .request _ rfl
  have returns : firstSettled.2.Returns
      (.returned (.outcome (.fulfilled "v")) :: inFlight.1.frames) := ⟨by decide, rfl⟩
  have member : ⟨1, .named "a", errandOf "a"⟩ ∈ inFlight.1.promises :=
    List.mem_cons_of_mem _ List.mem_cons_self
  obtain ⟨_, _, _, law⟩ := settlements_separate inFlight.2 (by decide) (by decide)
  refine ⟨by decide, by decide, by decide, _, member, rfl, returns, ?_, by decide, by decide⟩
  exact (((law (by decide) _ member).2 stride).2.2 firstSettled.2 returns).1

end Run

end Engine

end Toasts
