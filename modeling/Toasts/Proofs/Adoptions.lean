import Toasts.Proofs.Order
import Toasts.Proofs.Outcomes

/-!
Toasts that are taken over. A piece of work that names no toast takes over the newest live toast that
is at work under the same title, and puts up a toast of its own only if there is none. The newest is
the one created last, since records stand in the order of their creation; and the identity of a toast
of its own is new, as long as nobody has asked for an identity that was still to be made up.
-/

namespace Toasts

/-- A piece of work that names no toast may take over a live one that is at work under its title. -/
structure Toast.Adoptable (toast : Toast) (title : Option String) : Prop where
  live : toast.exiting = false
  kind : toast.kind = .loading
  title : toast.title = title

def Event.named? : Event → Option ToastId
  | .request (.present options) => options.id
  | .request (.promise work) => work.loading.id
  | _ => none

theorem Toast.id_create (options : Options) (defaults : Defaults) (settings : Settings)
    (screen : Screen) (number : Nat) : (create options defaults settings screen number).id =
      (options.id <|> defaults.options.id).getD (.generated number) := by
  cases named : options.id <;> simp [create, Options.merged, named]

namespace Engine

variable {engine after : Engine} {event : Event} {id : ToastId} {title : Option String}

/-- Whether an identity is a caller's own, or has been made up already. -/
def knows (engine : Engine) : ToastId → Bool
  | .named _ => true
  | .generated serial => decide (serial ≤ engine.numbers)

theorem knows_mono (numbers : engine.numbers ≤ after.numbers) (known : engine.knows id = true) :
    after.knows id = true := by
  cases id with
  | named text => rfl
  | generated serial => exact decide_eq_true (Nat.le_trans (of_decide_eq_true known) numbers)

/-- The toast created last of all that a piece of work under this title may take over. -/
structure Newest (engine : Engine) (title : Option String) (toast : Toast) : Prop where
  member : toast ∈ engine.store.toasts
  adoptable : toast.Adoptable title
  last : ∀ other ∈ engine.store.toasts, other.Adoptable title →
    other = toast ∨ other.birth < toast.birth

theorem sought_iff {toast : Toast} :
    (toast.isLive && decide (toast.kind = .loading) && toast.title == title) = true ↔
      toast.Adoptable title := by
  simp only [Toast.isLive, Bool.and_eq_true, Bool.not_eq_true', decide_eq_true_eq, beq_iff_eq]
  exact ⟨fun all => ⟨all.1.1, all.1.2, all.2⟩, fun all => ⟨⟨all.live, all.kind⟩, all.title⟩⟩

theorem pending?_adoptable (found : engine.pending? title = some id) :
    ∃ toast ∈ engine.store.toasts, toast.id = id ∧ toast.Adoptable title := by
  obtain ⟨toast, hit, rfl⟩ := Option.map_eq_some_iff.mp found
  have sought := List.find?_some hit
  exact ⟨toast, List.mem_reverse.mp (List.mem_of_find?_eq_some hit), rfl, sought_iff.mp sought⟩

theorem pending?_some
    (sorted : engine.store.toasts.Pairwise fun earlier later => earlier.birth < later.birth)
    (found : engine.pending? title = some id) :
    ∃ toast, toast.id = id ∧ engine.Newest title toast := by
  obtain ⟨toast, hit, rfl⟩ := Option.map_eq_some_iff.mp found
  obtain ⟨sought, passed, left, split, others⟩ := List.find?_eq_some_iff_append.mp hit
  -- Read backwards, everything that was passed over came later and was not what was sought.
  have toasts : engine.store.toasts = left.reverse ++ toast :: passed.reverse := by
    rw [← List.reverse_reverse engine.store.toasts, split]
    simp
  refine ⟨toast, rfl, by simp [toasts], sought_iff.mp sought, fun other member adoptable => ?_⟩
  rw [toasts] at member sorted
  rcases List.mem_append.mp member with before | rest
  · exact .inr ((List.pairwise_append.mp sorted).2.2 other before toast List.mem_cons_self)
  · rcases List.mem_cons.mp rest with same | after
    · exact .inl same
    · have unsought := others other (List.mem_reverse.mp after)
      rw [sought_iff.mpr adoptable] at unsought
      cases unsought

theorem pending?_none (none : engine.pending? title = none) :
    ∀ toast ∈ engine.store.toasts, ¬ toast.Adoptable title := by
  intro toast member adoptable
  have unsought := List.find?_eq_none.mp (Option.map_eq_none_iff.mp none) toast
    (List.mem_reverse.mpr member)
  exact unsought (sought_iff.mpr adoptable)

theorem showing_creation {options : Options} {number : Nat} {toast : Toast}
    (shows : engine.showing options number = .creation toast) :
    toast = Toast.create options engine.defaults engine.settings engine.screen number := by
  rw [showing] at shows
  split at shows
  next => cases shows
  next => exact (Change.creation.inj shows).symm

/-- No record has an identity that is still to be made up. -/
def Acquainted (engine : Engine) : Prop :=
  ∀ toast ∈ engine.store.toasts, engine.knows toast.id = true

/-- An event at which neither the caller nor the default options give an identity that is still to be
made up. -/
def Candid (engine : Engine) (event : Event) : Prop :=
  engine.defaults.options.id.all engine.knows = true ∧ event.named?.all engine.knows = true

instance (engine : Engine) (event : Event) : Decidable (engine.Candid event) :=
  inferInstanceAs (Decidable (_ ∧ _))

theorem creation_known {toast : Toast} (asked : engine.change? event = some (.creation toast))
    (candid : engine.Candid event) (acquainted : engine.Acquainted) :
    engine.knows toast.id = true ∨ toast.id = .generated toast.birth := by
  obtain ⟨preset, named⟩ := candid
  have known {options : Options} {number : Nat} (shows : engine.showing options number =
      .creation toast) (given : ∀ id, options.id = some id → engine.knows id = true) :
      engine.knows toast.id = true ∨ toast.id = .generated toast.birth := by
    have made := showing_creation shows
    have id := Toast.id_create options engine.defaults engine.settings engine.screen number
    rw [← made] at id
    cases asked : options.id with
    | some other => exact .inl (by rw [id, asked]; exact given other asked)
    | none =>
        cases standing : engine.defaults.options.id with
        | some other =>
            refine .inl ?_
            rw [id, asked, standing]
            simpa [standing] using preset
        | none => exact .inr (by rw [id, asked, standing, made]; rfl)
  cases event with
  | request operation =>
      cases operation with
      | present options =>
          refine known (Option.some.inj asked) fun id given => ?_
          simpa [Event.named?, given] using named
      | promise work =>
          refine known (Option.some.inj asked) fun id given => ?_
          cases own : work.loading.id with
          | some other =>
              have same : other = id := by simpa [tracking, Options.atWork, own] using given
              simpa [Event.named?, own, same] using named
          | none =>
              have found : engine.pending? work.loading.title = some id := by
                simpa [tracking, Options.atWork, own] using given
              obtain ⟨other, member, rfl, _⟩ := pending?_adoptable found
              exact acquainted other member
      | settle number outcome => simp [change?, requested?] at asked
      | _ => cases asked
  | proceed =>
      simp only [change?] at asked
      split at asked <;> cases asked
  | poll place =>
      simp only [change?] at asked
      split at asked
      · split at asked <;> cases asked
      · cases asked
      · cases asked
  | _ => cases asked

theorem Stride.acquainted (stride : Stride engine event after) (managed : event.isManaged = true)
    (orderly : Orderly engine) (candid : engine.Candid event) (acquainted : engine.Acquainted) :
    after.Acquainted := by
  have numbers := (stride.move managed).numbers orderly
  intro toast member
  cases stride.edits managed with
  | keeps toasts version refused =>
      rw [toasts] at member
      exact knows_mono numbers (acquainted toast member)
  | makes change asked made =>
      have origins := (made.turns orderly).1.origins.subset (List.mem_map_of_mem member)
      obtain ⟨old, source, same⟩ := List.mem_map.mp origins
      have id : old.id = toast.id := congrArg Prod.fst same
      rw [← id]
      rcases List.mem_append.mp source with before | created
      · exact knows_mono numbers (acquainted old before)
      · cases made with
        | creation new options number built given store =>
            obtain rfl := List.mem_singleton.mp created
            rcases creation_known asked candid acquainted with known | own
            · exact knows_mono numbers known
            · have birth : old.birth = number := by rw [built]; rfl
              rw [own, birth]
              exact decide_eq_true given.2
        | _ => cases created

namespace Run

variable {settings : Settings} {defaults : Defaults} {now : Nat} {start finish : Engine}

/-- A run in which callers and default options give only identities of the callers' own and those
already made up. -/
def Candid (run : Run start finish) : Prop := run.All Engine.Candid

instance (run : Run start finish) : Decidable run.Candid :=
  inferInstanceAs (Decidable (run.All _))

theorem acquainted (run : Run (fresh settings defaults now) finish) (managed : run.Managed)
    (candid : run.Candid) : finish.Acquainted := by
  induction run with
  | start => simp [Acquainted, fresh]
  | next run event stride ih =>
      exact stride.acquainted managed.2 (run.orderly managed.1) candid.2 (ih managed.1 candid.1)

end Run

/-- The newest toast that a piece of work may take over has this identity and is revised, in its
place and it alone: it is at work as before, and stays up from now on. -/
def TakesOver (before after : Engine) (work : PromiseOptions) (id : ToastId) : Prop :=
  ∃ above toast below revised, before.Newest work.loading.title toast ∧ toast.id = id ∧
    before.store.toasts = above ++ toast :: below ∧
    after.store.toasts = above ++ revised :: below ∧ revised.id = id ∧
    after.store.toasts.map (·.id) = before.store.toasts.map (·.id) ∧
    revised.exiting = false ∧ revised.kind = .loading ∧ revised.lifespan = .persistent ∧
    revised.title = work.loading.title ∧ revised.birth = toast.birth

def PutsUp (before after : Engine) (id : ToastId) : Prop :=
  ∃ toast, after.store.toasts = before.store.toasts ++ [toast] ∧ toast.id = id ∧
    (∀ other ∈ before.store.toasts, other.id ≠ id) ∧
    toast.exiting = false ∧ toast.kind = .loading ∧ toast.lifespan = .persistent

/-- What is promised of the beginning of a piece of work that names no toast and is tracked with the
toast of this identity. -/
structure Adopts (before after : Engine) (work : PromiseOptions) (id : ToastId) : Prop where
  adopted : (∃ toast ∈ before.store.toasts, toast.Adoptable work.loading.title) →
    TakesOver before after work id
  appended : (∀ toast ∈ before.store.toasts, ¬ toast.Adoptable work.loading.title) →
    PutsUp before after id
  remaining : after.remaining? id = none

variable {work : PromiseOptions}

theorem tracking_id (unnamed : work.loading.id = none) :
    (engine.tracking work).id = engine.pending? work.loading.title := by
  simp [tracking, Options.atWork, unnamed]

theorem Presented.adopted
    (presented : Presented { engine with numbers := engine.numbers + 1 } (engine.tracking work) id
      after.store.toasts)
    (orderly : Orderly engine)
    (sorted : engine.store.toasts.Pairwise fun earlier later => earlier.birth < later.birth)
    (unnamed : work.loading.id = none)
    (suited : ∃ toast ∈ engine.store.toasts, toast.Adoptable work.loading.title) :
    TakesOver engine after work id := by
  cases asked : engine.pending? work.loading.title with
  | none =>
      obtain ⟨toast, member, adoptable⟩ := suited
      exact absurd adoptable (pending?_none asked toast member)
  | some other =>
      obtain ⟨newest, rfl, law⟩ := pending?_some sorted asked
      have sought := orderly.get?_of_mem law.member
      cases presented with
      | refreshed toast named found live made =>
          rw [tracking_id unnamed, asked] at named
          obtain rfl := Option.some.inj named
          obtain rfl : newest = toast := Option.some.inj (sought.symm.trans found)
          obtain ⟨above, below, split, _, _, replaced⟩ := Store.find?_split sought
          have title : (newest.revise (engine.tracking work) engine.settings engine.screen
              (engine.numbers + 1 + 1)).title = work.loading.title := by
            cases own : work.loading.title <;>
              simp [Toast.revise, tracking, Options.atWork, own, law.adoptable.title]
          have later : after.store.toasts = above ++ newest.revise (engine.tracking work)
              engine.settings engine.screen (engine.numbers + 1 + 1) :: below :=
            made.trans (replaced _)
          have ids : after.store.toasts.map (·.id) = engine.store.toasts.map (·.id) := by
            rw [later, split, List.map_append, List.map_append]
            rfl
          exact ⟨above, newest, below, _, law, rfl, split, later, rfl, ids, rfl, rfl, rfl, title, rfl⟩
      | created toast dead made answer appended =>
          have alive := hasLive_iff.mpr ⟨newest, sought, law.adoptable.live⟩
          have gone := dead newest.id ((tracking_id unnamed).trans asked)
          exact absurd (alive.symm.trans gone) (by decide)

theorem Presented.appended
    (presented : Presented { engine with numbers := engine.numbers + 1 } (engine.tracking work) id
      after.store.toasts)
    (acquainted : engine.Acquainted) (unset : engine.defaults.options.id = none)
    (unnamed : work.loading.id = none)
    (unsuited : ∀ toast ∈ engine.store.toasts, ¬ toast.Adoptable work.loading.title) :
    PutsUp engine after id := by
  have unasked : (engine.tracking work).id = none := by
    rw [tracking_id unnamed]
    cases asked : engine.pending? work.loading.title with
    | none => rfl
    | some other =>
        obtain ⟨toast, member, _, adoptable⟩ := pending?_adoptable asked
        exact absurd adoptable (unsuited toast member)
  cases presented with
  | refreshed toast named found live made => cases unasked.symm.trans named
  | created toast dead made answer appended =>
      have own := Toast.id_create (engine.tracking work) engine.defaults engine.settings
        engine.screen (engine.numbers + 1 + 1)
      rw [← made, unasked, unset, answer] at own
      have new : ∀ other ∈ engine.store.toasts, other.id ≠ id := by
        intro other member same
        have known := acquainted other member
        rw [same, own] at known
        have given : engine.numbers + 1 + 1 ≤ engine.numbers := of_decide_eq_true known
        omega
      refine ⟨toast, ?_, answer, new, ?_⟩
      · rw [appended, List.filter_eq_self.mpr fun other member => decide_eq_true (new other member)]
      · rw [made]
        exact ⟨rfl, rfl, rfl⟩

theorem Presented.new {options : Options}
    (presented : Presented { engine with numbers := engine.numbers + 1 } options id
      after.store.toasts) (orderly : Orderly engine) : ¬ SameEdition engine after id := by
  have edition : (after.get? id).map (·.edition) = some (engine.numbers + 1 + 1) := by
    cases presented with
    | refreshed toast named found live made =>
        obtain rfl := Store.id_of_get? found
        have look := (get?_replaced found (by rfl) made toast.id).trans (if_pos rfl)
        rw [look]
        rfl
    | created toast dead made answer appended =>
        subst answer
        have look := (get?_put appended toast.id).trans (if_pos rfl)
        rw [look, made]
        rfl
  rw [SameEdition, edition]
  intro same
  obtain ⟨toast, found, old⟩ := Option.map_eq_some_iff.mp same.symm
  have numbered := orderly.numbered toast (Store.mem_of_get? found)
  omega

namespace Run

variable {settings : Settings} {defaults : Defaults} {now : Nat} {before after : Engine}

/-- A piece of work takes over a matching toast instead of putting up another one. In a run in which
listeners and callbacks ask for nothing, and nobody gives an identity that is still to be made up, let
a piece of work that names no toast begin while nothing is under way and the default options name
none: then its call comes to an end, and when it does, the newest live toast that is at work under the same
title, and no other, has been revised in its place, or, if there is no such toast, one with a new
identity has come last; in either case it is at work and stays up without a countdown. -/
theorem tracking_adopts {work : PromiseOptions} (run : Run (fresh settings defaults now) before)
    (passive : run.Passive) (candid : run.Candid) (rest : before.AtRest)
    (unset : before.defaults.options.id = none) (unnamed : work.loading.id = none)
    (stride : Stride before (.request (.promise work)) after) :
    ∃ id, after.promises = ⟨before.numbers + 1, id, work⟩ :: before.promises ∧
      (∃ final, ∃ call : Run after final,
        call.Returns (.returned (.promise (before.numbers + 1)) :: before.frames)) ∧
      ∀ {final} (call : Run after final),
        call.Returns (.returned (.promise (before.numbers + 1)) :: before.frames) →
          Adopts before final work id := by
  have managed := passive.managed
  have orderly := run.orderly managed
  cases stride with
  | request operation turn =>
      have stride : Stride before (.request (.promise work)) _ := .request _ turn
      obtain ⟨id, version, snapshot, pending, lifespan, frames, promises, presented⟩ :=
        request_promise before work
      have calm : (before.request (.promise work)).Calm
          (.returned (.promise (before.numbers + 1)) :: before.frames) :=
        ⟨_, frames, by simp [Frame.isCalm]⟩
      have quiet : Quiet (.returned (.promise (before.numbers + 1)) :: before.frames)
          (.start : Run (before.request (.promise work)) _) := trivial
      refine ⟨id, promises, quiet.returns frames, fun {final} call returns => ?_⟩
      have same := (returns.1.calm calm).2
      obtain ⟨toast, found, _, atWork⟩ := presented.atWork
      have works : final.WorksUnder id := by
        intro other present
        rw [get?_congr same, found] at present
        obtain rfl := Option.some.inj present
        exact atWork
      have new := presented.new orderly
      rw [← same] at presented
      refine ⟨presented.adopted orderly (run.inOrder managed).sorted unnamed,
        presented.appended (run.acquainted managed candid) unset unnamed, ?_⟩
      rw [(returns.remaining?_new passive rest rfl stride new).1, works.called]

def waiting (name : String) : Event :=
  .request (.present { id := some (.named name), title := some "Working" : Options }.atWork)

/-- Three toasts are at work under the same title, and the last one begins its exit. For a while the
default options have named a toast. -/
def lineUp : Σ finish, Run (fresh {} {} 0) finish :=
  (Run.start.extend? [.request (.setDefaultOptions { id := some (.named "z") }), .handBack,
    waiting "a", .proceed, .proceed, .handBack, waiting "b", .proceed, .proceed, .handBack,
    waiting "c", .proceed, .proceed, .handBack, .request (.setDefaultOptions {}), .handBack,
    .request (.dismiss (.named "c")), .proceed, .proceed, .proceed, .proceed, .handBack]).get rfl

def unnamedJob : PromiseOptions := { job with loading := { title := some "Working" } }

def lineUpJoined : Σ finish, Run (lineUp.1.request (.promise unnamedJob)) finish :=
  (Run.start.extend? [.proceed, .proceed]).get rfl

theorem lineUp_adopted : lineUp.2.Passive ∧ lineUp.2.Candid ∧ lineUp.1.AtRest ∧
    lineUpJoined.2.Returns (.returned (.promise 4) :: lineUp.1.frames) ∧
    Adopts lineUp.1 lineUpJoined.1 unnamedJob (.named "b") ∧
    lineUpJoined.1.store.toasts.map (·.id) = [.named "a", .named "b", .named "c"] := by
  have stride : Stride lineUp.1 (.request (.promise unnamedJob)) _ := .request _ rfl
  have returns : lineUpJoined.2.Returns (.returned (.promise 4) :: lineUp.1.frames) :=
    ⟨by decide, rfl⟩
  obtain ⟨id, promises, _, law⟩ :=
    tracking_adopts lineUp.2 (by decide) (by decide) (by decide) rfl rfl stride
  have second : some (.named "b") = some id := congrArg (·.head?.map (·.toast)) promises
  obtain rfl := Option.some.inj second
  exact ⟨by decide, by decide, by decide, returns, law lineUpJoined.2 returns, rfl⟩

end Run

end Engine

end Toasts
