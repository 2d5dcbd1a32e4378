import Toasts.Proofs.Loading
import Toasts.Proofs.Revisions

/-!
The order of an autopilot. A configuration is loaded only if its details collapse no sooner than they
expand, but a toast may ask for one of the two delays and leave the other one to the configuration.
Within a lifespan both delays are cut down to it, so what is asked for is in order exactly when the
delays were before that, or when the lifespan is over by the time of the collapse.
-/

namespace Toasts

namespace Span

theorem shorter_le_shorter (first second limit : Span) :
    (first.shorter limit).nanos ≤ (second.shorter limit).nanos ↔
      first.nanos ≤ second.nanos ∨ limit.nanos ≤ second.nanos := by
  simp only [nanos_shorter]
  omega

end Span

/-- A record comes of these layers of options, the latest first: it was built from the two lowest
ones, and each of the others was put over it by a revision. -/
inductive Toast.Shaped (settings : Settings) : List Options → Toast → Prop where
  | built (options : Options) (defaults : Defaults) (screen : Screen) (number : Nat) :
      Shaped settings [options, defaults.options]
        (Toast.create options defaults settings screen number)
  | revised (layers : List Options) (toast : Toast) (options : Options) (screen : Screen)
      (number : Nat) (before : Shaped settings layers toast) :
      Shaped settings (options :: layers) (toast.revise options settings screen number)
  | left (layers : List Options) (toast : Toast) (before : Shaped settings layers toast) :
      Shaped settings layers toast.leave
  | painted (layers : List Options) (toast painted : Toast) (before : Shaped settings layers toast)
      (made : toast.painted? = some painted) : Shaped settings layers painted

theorem Toast.Shaped.autopilotRequest {settings : Settings} {layers : List Options} {toast : Toast}
    (shaped : toast.Shaped settings layers) :
    toast.autopilotRequest = layers.findSome? (·.autopilot) := by
  induction shaped with
  | built options defaults screen number =>
      simp only [create, Options.merged, List.findSome?_cons, List.findSome?_nil]
      cases options.autopilot <;> cases defaults.options.autopilot <;> rfl
  | revised layers toast options screen number before ih =>
      simp only [revise, List.findSome?_cons, ih]
      cases options.autopilot <;> rfl
  | left layers toast before ih => exact ih
  | painted layers toast painted before made ih =>
      obtain ⟨_, rfl⟩ := painted?_some made
      exact ih

/-- When the details of a toast with these delays and this lifespan expand and collapse. -/
theorem Autopilot.ordered_iff {request : Option AutopilotRequest} {span : Span} {settings : Settings}
    {pilot : Autopilot} (planned : plan request (.finite span) settings = some pilot) :
    let expand := (request.bind (·.expand?)).getD settings.autopilot.expandAfter
    let collapse := (request.bind (·.collapse?)).getD settings.autopilot.collapseAfter
    pilot.expandAfter.nanos ≤ pilot.collapseAfter.nanos ↔
      expand.nanos ≤ collapse.nanos ∨ span.nanos ≤ collapse.nanos := by
  obtain ⟨whole, same, expand, collapse⟩ := plan_some planned
  obtain rfl := Lifespan.finite.inj same
  rw [expand, collapse]
  exact Span.shorter_le_shorter _ _ _

namespace Engine

variable {engine after : Engine} {event : Event}

theorem Edits.shaped (edits : Edits engine event after) (same : after.settings = engine.settings)
    (shaped : ∀ toast ∈ engine.store.toasts, ∃ layers, toast.Shaped engine.settings layers) :
    ∀ toast ∈ after.store.toasts, ∃ layers, toast.Shaped after.settings layers := by
  rw [same]
  cases edits with
  | keeps toasts version refused =>
      rw [toasts]
      exact shaped
  | makes change asked made =>
      refine made.each ?_ ?_ ?_ ?_ shaped
      · exact fun options number => ⟨_, .built options engine.defaults engine.screen number⟩
      · rintro toast options number ⟨layers, before⟩ live
        exact ⟨_, .revised layers toast options engine.screen number before⟩
      · rintro toast ⟨layers, before⟩
        exact ⟨layers, .left layers toast before⟩
      · rintro toast painted ⟨layers, before⟩ seen
        exact ⟨layers, .painted layers toast painted before seen⟩

theorem ofConfiguration_eq (configuration : Configuration) (now : Nat) :
    ofConfiguration configuration (some now) =
      .ok (fresh configuration.settings { position := configuration.position } now) := rfl

namespace Run

variable {settings : Settings} {defaults : Defaults} {now : Nat} {start finish : Engine}

theorem settings_kept (run : Run start finish) (managed : run.Managed) :
    finish.settings = start.settings := by
  induction run with
  | start => rfl
  | next run event stride ih => exact (stride.move managed.2).settings.trans (ih managed.1)

theorem shaped (run : Run (fresh settings defaults now) finish) (managed : run.Managed) :
    ∀ toast ∈ finish.store.toasts, ∃ layers, toast.Shaped finish.settings layers := by
  induction run with
  | start => simp [fresh]
  | next run event stride ih =>
      exact (stride.edits managed.2).shaped (stride.move managed.2).settings (ih managed.1)

/-- The details of a toast collapse no sooner than they expand when it leaves both delays to the
configuration, and else exactly when the delays that count are in order, or the toast is gone by the
time of the collapse. In any case both delays are within the lifespan. Which delays a toast asks for
is said by the latest wish among the layers of options that it comes of. -/
theorem autopilots_ordered {surroundings : Surroundings} {path : String}
    {configuration : Configuration} {engine : Engine}
    (loaded : Configuration.load surroundings path = .ok configuration)
    (started : ofConfiguration configuration (some now) = .ok engine)
    (run : Run engine finish) (managed : run.Managed) :
    ∀ toast ∈ finish.store.toasts, ∃ layers, toast.Shaped configuration.settings layers ∧
      let request := layers.findSome? (·.autopilot)
      let standard := configuration.settings.autopilot
      ∀ pilot, toast.autopilot = some pilot → ∃ span, toast.lifespan = .finite span ∧
        pilot.expandAfter.nanos ≤ span.nanos ∧ pilot.collapseAfter.nanos ≤ span.nanos ∧
        (request.bind (·.expand?) = none → request.bind (·.collapse?) = none →
          pilot.expandAfter.nanos ≤ pilot.collapseAfter.nanos) ∧
        (∀ expand, request.bind (·.expand?) = some expand → request.bind (·.collapse?) = none →
          (pilot.expandAfter.nanos ≤ pilot.collapseAfter.nanos ↔
            expand.nanos ≤ standard.collapseAfter.nanos ∨
              span.nanos ≤ standard.collapseAfter.nanos)) ∧
        (∀ collapse, request.bind (·.expand?) = none → request.bind (·.collapse?) = some collapse →
          (pilot.expandAfter.nanos ≤ pilot.collapseAfter.nanos ↔
            standard.expandAfter.nanos ≤ collapse.nanos ∨ span.nanos ≤ collapse.nanos)) := by
  obtain rfl : fresh configuration.settings { position := configuration.position } now = engine :=
    Except.ok.inj started
  obtain ⟨_, _, fits⟩ := Configuration.load_fits loaded
  have same : finish.settings = configuration.settings := run.settings_kept managed
  intro toast member
  obtain ⟨layers, shaped⟩ := run.shaped managed toast member
  have planned : toast.autopilot =
      Autopilot.plan toast.autopilotRequest toast.lifespan configuration.settings :=
    same ▸ run.planned managed toast member
  rw [shaped.autopilotRequest] at planned
  refine ⟨layers, same ▸ shaped, fun pilot flies => ?_⟩
  rw [flies] at planned
  obtain ⟨span, finite, expand, collapse⟩ := Autopilot.plan_some planned.symm
  rw [finite] at planned
  have ordered := Autopilot.ordered_iff planned.symm
  refine ⟨span, finite, expand ▸ Span.shorter_le _ _, collapse ▸ Span.shorter_le _ _,
    fun early late => ?_, fun delay early late => ?_, fun delay early late => ?_⟩
  · rw [early, late] at ordered
    exact ordered.mpr (.inl fits.inOrder)
  · rwa [early, late] at ordered
  · rwa [early, late] at ordered

theorem load_nothing : Configuration.load {} "notix.toml" = .ok {} := by
  have tree : ({} : Surroundings).tree "notix.toml" = .ok (.table []) := by
    refine Surroundings.tree_ok_iff.mpr ⟨[], .table [], ?_, rfl, rfl⟩
    rw [Surroundings.members?]
    simp [Configuration.document?_nowhere]
  rw [Configuration.load, tree]
  rfl

/-- A toast is shown for twenty seconds that asks for its details after ten, and leaves it open when
they collapse. -/
def leisurely : Σ finish, Run (fresh {} {} 0) finish :=
  (Run.start.extend? [.request (.present
    { id := some (.named "x"), lifespan := some (.finite (.ofMillis 20000))
      autopilot := some (.custom (some (.ofMillis 10000)) none) }),
    .proceed, .proceed, .handBack]).get rfl

theorem leisurely_within : leisurely.2.Managed ∧ ∀ toast ∈ leisurely.1.store.toasts,
    ∀ pilot, toast.autopilot = some pilot → ∃ span, toast.lifespan = .finite span ∧
      pilot.expandAfter.nanos ≤ span.nanos ∧ pilot.collapseAfter.nanos ≤ span.nanos := by
  refine ⟨by decide, fun toast member pilot flies => ?_⟩
  have ordered := autopilots_ordered load_nothing (ofConfiguration_eq {} 0) leisurely.2 (by decide)
  obtain ⟨layers, shaped, exact⟩ := ordered toast member
  obtain ⟨span, finite, expand, collapse, _⟩ := exact pilot flies
  exact ⟨span, finite, expand, collapse⟩

theorem leisurely_disordered : Configuration.load {} "notix.toml" = .ok {} ∧
    ofConfiguration {} (some 0) = .ok (fresh {} {} 0) ∧ leisurely.2.Managed ∧
    ∃ toast ∈ leisurely.1.store.toasts,
      toast.autopilotRequest = some (.custom (some (.ofMillis 10000)) none) ∧
      toast.autopilot = some { expandAfter := .ofMillis 10000, collapseAfter := .ofMillis 4000 } ∧
      (Span.ofMillis 4000).nanos < (Span.ofMillis 10000).nanos :=
  ⟨load_nothing, rfl, by decide, _, List.mem_cons_self, rfl, rfl, by decide⟩

end Run

end Engine

end Toasts
