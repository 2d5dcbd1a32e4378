import Toasts.Proofs.OptionStacks
import Toasts.Proofs.Showings

/-!
Chains of revisions. A record is built from options over the default options, and then revised by
one layer of options after the other. Its lifespan after that is the one the latest deciding revision
gave it, and its autopilot follows the latest wish in the whole chain, also where a lifespan without
end came in between. In all else a layer of options does to a record what it does to the options that
the record is built from.
-/

namespace Toasts

structure Revision where
  options : Options
  screen : Screen
  number : Nat

/-- Whether a revision decides anew how long a toast stays up: it asks for a lifespan, or finds the
toast at work. -/
def Revision.decides (revision : Revision) (toast : Toast) : Bool :=
  revision.options.lifespan.isSome || decide (toast.kind = .loading)

namespace Span

@[simp] theorem nanos_shorter (first second : Span) :
    (first.shorter second).nanos = min first.nanos second.nanos := by
  rw [shorter]
  split
  next less => exact (Nat.min_eq_right (Nat.le_of_lt less)).symm
  next more => exact (Nat.min_eq_left (Nat.le_of_not_lt more)).symm

theorem shorter_le (first limit : Span) : (first.shorter limit).nanos ≤ limit.nanos := by
  rw [nanos_shorter]
  exact Nat.min_le_right _ _

end Span

theorem Lifespan.countdown_some {lifespan : Lifespan} {span : Span}
    (counts : lifespan.countdown = some span) : lifespan = .finite span ∧ span ≠ .zero := by
  cases lifespan with
  | persistent => cases counts
  | finite whole =>
      simp only [countdown] at counts
      split at counts
      next => cases counts
      next lasts =>
          obtain rfl := Option.some.inj counts
          exact ⟨rfl, fun none => lasts ((Span.isZero_iff whole).mpr none)⟩

def AutopilotRequest.expand? : AutopilotRequest → Option Span
  | .switch _ => none
  | .custom expand _ => expand

def AutopilotRequest.collapse? : AutopilotRequest → Option Span
  | .switch _ => none
  | .custom _ collapse => collapse

/-- Each delay of an autopilot is the one asked for, or that of the settings, within the lifespan. -/
theorem Autopilot.plan_some {request : Option AutopilotRequest} {lifespan : Lifespan}
    {settings : Settings} {pilot : Autopilot} (planned : plan request lifespan settings = some pilot) :
    ∃ span, lifespan = .finite span ∧
      pilot.expandAfter =
        ((request.bind (·.expand?)).getD settings.autopilot.expandAfter).shorter span ∧
      pilot.collapseAfter =
        ((request.bind (·.collapse?)).getD settings.autopilot.collapseAfter).shorter span := by
  simp only [plan] at planned
  split at planned
  next => cases planned
  next => cases planned
  next span counts =>
      split at planned
      next =>
          obtain rfl := Option.some.inj planned
          exact ⟨span, (Lifespan.countdown_some counts).1, rfl, rfl⟩
      next => cases planned
  next span counts =>
      obtain rfl := Option.some.inj planned
      exact ⟨span, (Lifespan.countdown_some counts).1, rfl, rfl⟩
  next span expand collapse counts =>
      obtain rfl := Option.some.inj planned
      exact ⟨span, (Lifespan.countdown_some counts).1, rfl, rfl⟩

theorem Autopilot.plan_none {request : Option AutopilotRequest} {lifespan : Lifespan}
    {settings : Settings} (lasts : lifespan = .persistent ∨ lifespan = .finite .zero) :
    plan request lifespan settings = none := by
  rcases lasts with rfl | rfl <;> rfl

/-- An anchor stands for one and the same box on all of these screens. -/
def Anchor.StaysOn (screens : List Screen) (anchor : Anchor) : Prop :=
  ∃ bounds, ∀ screen ∈ screens, anchor.resolve screen = some bounds

/-- Two records say the same in all that options can ask for, but for how long they last and what
follows from that. -/
structure Toast.Alike (first second : Toast) : Prop where
  kind : first.kind = second.kind
  title : first.title = second.title
  description : first.description = second.description
  position : first.position = second.position
  icon : first.icon = second.icon
  styles : first.styles = second.styles
  action : first.action = second.action
  animation : first.animation = second.animation
  anchor : first.anchor = second.anchor
  onDismiss : first.onDismiss = second.onDismiss
  onAutoClose : first.onAutoClose = second.onAutoClose
  autopilotRequest : first.autopilotRequest = second.autopilotRequest

namespace Toast

variable {settings : Settings} {toast : Toast} {latest : Revision} {earlier chain : List Revision}

def revised (toast : Toast) (settings : Settings) : List Revision → Toast
  | [] => toast
  | latest :: earlier =>
      (toast.revised settings earlier).revise latest.options settings latest.screen latest.number

/-- The revisions of a chain, each with the record that it is made to, the latest first. -/
def revisions (toast : Toast) (settings : Settings) : List Revision → List (Toast × Revision)
  | [] => []
  | latest :: earlier => (toast.revised settings earlier, latest) :: toast.revisions settings earlier

/-- The lifespan that the latest deciding revision of a chain gives, or that of the record. -/
def decided (toast : Toast) (settings : Settings) (chain : List Revision) : Lifespan :=
  match (toast.revisions settings chain).find? fun made => made.2.decides made.1 with
  | some (_, revision) => revision.options.lifespan.getD settings.lifespan
  | none => toast.lifespan

theorem decided_cons : toast.decided settings (latest :: earlier) =
    if latest.decides (toast.revised settings earlier) then
      latest.options.lifespan.getD settings.lifespan
    else toast.decided settings earlier := by
  simp only [decided, revisions, List.find?_cons]
  cases latest.decides (toast.revised settings earlier) <;> rfl

theorem decided_asked {lifespan : Lifespan}
    (asked : chain.head?.bind (·.options.lifespan) = some lifespan) :
    toast.decided settings chain = lifespan := by
  cases chain with
  | nil => cases asked
  | cons latest earlier =>
      have given : latest.options.lifespan = some lifespan := asked
      simp [decided_cons, Revision.decides, given]

theorem lifespan_revised (toast : Toast) (settings : Settings) (chain : List Revision) :
    (toast.revised settings chain).lifespan =
      match chain.head?.bind (·.options.lifespan) with
      | some lifespan => lifespan
      | none =>
          if chain ≠ [] ∧ (toast.revised settings chain).kind = .loading then .persistent
          else toast.decided settings chain := by
  induction chain with
  | nil => rfl
  | cons latest earlier ih =>
      have kind : (toast.revised settings (latest :: earlier)).kind =
          latest.options.kind.getD (toast.revised settings earlier).kind := rfl
      have lifespan : (toast.revised settings (latest :: earlier)).lifespan =
          (toast.revised settings earlier).revisedLifespan latest.options settings := rfl
      rw [lifespan, kind, revisedLifespan]
      cases asked : latest.options.lifespan with
      | some lifespan => simp [asked]
      | none =>
          simp only [List.head?_cons, Option.bind_some, asked, ne_eq, reduceCtorEq,
            not_false_eq_true, true_and]
          by_cases works : latest.options.kind.getD (toast.revised settings earlier).kind = .loading
          · rw [if_pos works, if_pos works]
          · rw [if_neg works, if_neg works, decided_cons]
            by_cases worked : (toast.revised settings earlier).kind = .loading
            · have decides : latest.decides (toast.revised settings earlier) = true := by
                simp [Revision.decides, worked]
              simp [worked, decides, asked]
            · -- Nothing is decided, so the record keeps what the chain before has come to.
              have passes : latest.decides (toast.revised settings earlier) = false := by
                simp [Revision.decides, asked, worked]
              have before : (toast.revised settings earlier).lifespan =
                  toast.decided settings earlier := by
                rw [ih]
                split
                next lifespan given => exact (decided_asked given).symm
                next => rw [if_neg fun both => worked both.2]
              rw [if_neg worked, before, passes]
              rfl

theorem autopilotRequest_revised (toast : Toast) (settings : Settings) (chain : List Revision) :
    (toast.revised settings chain).autopilotRequest =
      ((chain.map (·.options)).findSome? (·.autopilot) <|> toast.autopilotRequest) := by
  induction chain with
  | nil => rfl
  | cons latest earlier ih =>
      have request : (toast.revised settings (latest :: earlier)).autopilotRequest =
          (latest.options.autopilot <|>
            (toast.revised settings earlier).autopilotRequest) := rfl
      rw [request, ih, List.map_cons, List.findSome?_cons]
      cases latest.options.autopilot <;> rfl

theorem planned_revised (planned : toast.Planned settings) (chain : List Revision) :
    (toast.revised settings chain).Planned settings := by
  cases chain with
  | nil => exact planned
  | cons latest earlier => rfl

/-- What a chain of revisions makes of lifespan and autopilot. The lifespan is the one that the
latest revision asks for; if it asks for none, a toast at work stays up; else it is what the latest
revision decided that asked for a lifespan or found the toast at work, and without such a revision
the one that the record was built with. The autopilot is planned, for that lifespan, from the latest
wish of all layers, the default options lowest. There is none where the toast does not dismiss
itself, and its delays are never beyond the lifespan. -/
theorem revisions_exact (options : Options) (defaults : Defaults) (settings : Settings)
    (screen : Screen) (number : Nat) (chain : List Revision) :
    let created := create options defaults settings screen number
    let toast := created.revised settings chain
    (toast.lifespan = match chain.head?.bind (·.options.lifespan) with
      | some lifespan => lifespan
      | none =>
          if chain ≠ [] ∧ toast.kind = .loading then .persistent
          else match (created.revisions settings chain).find? fun made => made.2.decides made.1 with
            | some (_, revision) => revision.options.lifespan.getD settings.lifespan
            | none => created.lifespan) ∧
    toast.autopilot = Autopilot.plan
      ((chain.map (·.options) ++ [options, defaults.options]).findSome? (·.autopilot))
      toast.lifespan settings ∧
    (toast.lifespan = .persistent ∨ toast.lifespan = .finite .zero → toast.autopilot = none) ∧
    ∀ pilot, toast.autopilot = some pilot → ∃ span, toast.lifespan = .finite span ∧
      pilot.expandAfter.nanos ≤ span.nanos ∧ pilot.collapseAfter.nanos ≤ span.nanos := by
  intro created toast
  have planned : toast.Planned settings :=
    planned_revised (show created.Planned settings from rfl) chain
  have request : toast.autopilotRequest =
      (chain.map (·.options) ++ [options, defaults.options]).findSome? (·.autopilot) := by
    have first : created.autopilotRequest = (options.autopilot <|> defaults.options.autopilot) := rfl
    have lowest : [options, defaults.options].findSome? (·.autopilot) =
        (options.autopilot <|> defaults.options.autopilot) := by
      cases asked : options.autopilot <;> simp [List.findSome?_cons, asked]
      cases defaults.options.autopilot <;> rfl
    rw [autopilotRequest_revised, first, List.findSome?_append, lowest]
    exact Option.orElse_eq_or
  refine ⟨lifespan_revised created settings chain, request ▸ planned, fun lasts => ?_,
    fun pilot flies => ?_⟩
  · rw [planned]
    exact Autopilot.plan_none lasts
  · obtain ⟨span, finite, expand, collapse⟩ := Autopilot.plan_some (planned.symm.trans flies)
    exact ⟨span, finite, expand ▸ Span.shorter_le _ _, collapse ▸ Span.shorter_le _ _⟩

/-- A toast that is built at work and not revised yet counts down: only a revision lets a toast at
work stay up. -/
theorem built_at_work_counts_down :
    let created := create { kind := some .loading } {} {} {} 1
    let toast := created.revised {} []
    toast.kind = .loading ∧
      ([] : List Revision).head?.bind (·.options.lifespan) = none ∧ toast.lifespan ≠ .persistent := by
  exact ⟨rfl, rfl, nofun⟩

theorem bind_resolve_merged {low top : Option Anchor} {built seen whole : Screen}
    (still : ∀ anchor, top = some anchor ∨ low = some anchor →
      anchor.StaysOn [built, seen, whole]) :
    (top.bind (·.resolve seen) <|> low.bind (·.resolve built)) =
      (top <|> low).bind (·.resolve whole) := by
  cases top with
  | some anchor =>
      obtain ⟨bounds, same⟩ := still anchor (.inl rfl)
      simp [same seen, same whole]
  | none =>
      cases low with
      | none => rfl
      | some anchor =>
          obtain ⟨bounds, same⟩ := still anchor (.inr rfl)
          simp [same built, same whole]

theorem anchored_merged {low top : Options} {screens : List Screen}
    (lower : ∀ anchor, low.anchor = some anchor → anchor.StaysOn screens)
    (upper : ∀ anchor, top.anchor = some anchor → anchor.StaysOn screens) :
    ∀ anchor, (low.merged top).anchor = some anchor → anchor.StaysOn screens := by
  intro anchor asked
  cases given : top.anchor with
  | some other =>
      have same : some other = some anchor := by simpa [Options.merged, given] using asked
      exact upper anchor (given.trans same)
  | none => exact lower anchor (by simpa [Options.merged, given] using asked)

/-- A lifespan does not depend on how the layers come together, when the upper one asks for a lifespan
or no work begins or ends with it. -/
theorem lifespan_revise_create (base top : Options) (defaults : Defaults) (settings : Settings)
    (built seen whole : Screen) (first second third : Nat) :
    let created := create base defaults settings built first
    let revised := created.revise top settings seen second
    (top.lifespan.isSome = true ∨ created.kind ≠ .loading ∧ revised.kind ≠ .loading) →
      revised.lifespan = (create (base.merged top) defaults settings whole third).lifespan := by
  intro created revised lasting
  have shape : (create (base.merged top) defaults settings whole third).lifespan =
      ((defaults.options.merged base).merged top).lifespan.getD settings.lifespan := by
    rw [Options.merged_assoc]
    rfl
  rw [shape, show revised.lifespan = created.revisedLifespan top settings from rfl,
    revisedLifespan]
  cases asked : top.lifespan with
  | some lifespan => simp [Options.merged, asked]
  | none =>
      obtain ⟨idle, stays⟩ : created.kind ≠ .loading ∧ revised.kind ≠ .loading := by
        simpa [asked] using lasting
      have settled : top.kind.getD created.kind ≠ .loading := stays
      rw [if_neg settled, if_neg idle]
      simp [created, create, Options.merged, asked]

/-- To build a record and then revise it comes to the same as to build it from both layers of options
at once, as far as anchors lie still: the two say the same, and they last for the same time, with
the same autopilot, when the revision asks for a lifespan or no work begins or ends with it. -/
theorem revise_create_alike (base top : Options) (defaults : Defaults) (settings : Settings)
    (built seen whole : Screen) (first second third : Nat)
    (still : ∀ layer ∈ [defaults.options, base, top], ∀ anchor, layer.anchor = some anchor →
      anchor.StaysOn [built, seen, whole]) :
    let created := create base defaults settings built first
    let revised := created.revise top settings seen second
    let merged := create (base.merged top) defaults settings whole third
    revised.Alike merged ∧
      (top.lifespan.isSome = true ∨ created.kind ≠ .loading ∧ revised.kind ≠ .loading →
        revised.lifespan = merged.lifespan ∧ revised.autopilot = merged.autopilot) := by
  intro created revised merged
  -- The default options may as well be the lowest layer of a single stack.
  have stack := Options.merged_assoc defaults.options base top
  have lower := anchored_merged (still defaults.options (by simp)) (still base (by simp))
  have alike : revised.Alike merged := by
    constructor <;> simp only [revised, merged, created, revise, create, ← stack]
    case anchor =>
      refine bind_resolve_merged fun anchor asked => ?_
      rcases asked with highest | lowest
      · exact still top (by simp) anchor highest
      · exact lower anchor lowest
    all_goals simp [Options.merged]
  refine ⟨alike, fun lasting => ?_⟩
  have lifespan : revised.lifespan = merged.lifespan :=
    lifespan_revise_create base top defaults settings built seen whole first second third lasting
  refine ⟨lifespan, ?_⟩
  calc revised.autopilot
    _ = Autopilot.plan revised.autopilotRequest revised.lifespan settings := rfl
    _ = Autopilot.plan merged.autopilotRequest merged.lifespan settings := by
        rw [alike.autopilotRequest, lifespan]
    _ = merged.autopilot := rfl

theorem retitled_alike :
    let screen : Screen := Screen.place {} "button" (some { x := 0, y := 0, width := 1, height := 1 })
    let base : Options := { title := some "one", anchor := some (.element "button") }
    let top : Options := { title := some "two", autopilot := some (.switch false) }
    (∀ layer ∈ [({} : Defaults).options, base, top], ∀ anchor, layer.anchor = some anchor →
      anchor.StaysOn [screen, screen, screen]) ∧
    ((create base {} {} screen 1).revise top {} screen 2).Alike
      (create (base.merged top) {} {} screen 3) ∧
    ((create base {} {} screen 1).revise top {} screen 2).autopilot =
      (create (base.merged top) {} {} screen 3).autopilot := by
  intro screen base top
  have still : ∀ layer ∈ [({} : Defaults).options, base, top], ∀ anchor,
      layer.anchor = some anchor → anchor.StaysOn [screen, screen, screen] := by
    intro layer member anchor asked
    simp only [List.mem_cons, List.not_mem_nil, or_false] at member
    rcases member with rfl | rfl | rfl
    · cases asked
    · obtain rfl := Option.some.inj asked
      refine ⟨{ x := 0, y := 0, width := 1, height := 1 }, fun shown member => ?_⟩
      obtain rfl : shown = screen := by simpa using member
      rfl
    · cases asked
  have alike := revise_create_alike base top {} {} screen screen screen 1 2 3 still
  exact ⟨still, alike.1, (alike.2 (.inr ⟨nofun, nofun⟩)).2⟩

end Toast

end Toasts
