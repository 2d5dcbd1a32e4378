import Toasts.Motion.Strategy

/-!
Exits as mirrored entrances. Every animation is a course: how it enters, and the timings of both
phases. So its exit shows the keyframes of its entrance backwards, with what was left of the way as
the offset. Growing and flying take their courses from two boxes, and slide when one of the two
cannot be measured, and only then: no other course takes as long as the slide in either phase.
-/

namespace Toasts

/-- A box that motion cannot be measured on: there is none, one of its numbers is not finite, or one
of its sides is not positive, which a side that is no number is not either. -/
def Unmeasured (box : Option Rect) : Prop :=
  ∀ rect, box = some rect →
    (∃ number ∈ [rect.x, rect.y, rect.width, rect.height], number.isFinite = false) ∨
      ¬ 0.0 < rect.width ∨ ¬ 0.0 < rect.height

theorem unmeasured_iff (box : Option Rect) :
    Unmeasured box ↔ box.filter Rect.isMeasurable = none := by
  cases box with
  | none => simp [Unmeasured]
  | some rect =>
      have spelled : rect.isMeasurable = false ↔
          (∃ number ∈ [rect.x, rect.y, rect.width, rect.height], number.isFinite = false) ∨
            ¬ 0.0 < rect.width ∨ ¬ 0.0 < rect.height := by
        simp only [Rect.isMeasurable, Bool.and_eq_false_iff, decide_eq_false_iff_not, List.mem_cons,
          List.not_mem_nil, or_false, exists_eq_or_imp, exists_eq_left, or_assoc, gt_iff_lt]
      simp only [Unmeasured, Option.some.injEq, forall_eq', Option.filter_eq_none_iff]
      simpa using spelled.symm

theorem Scene.measured_none (scene : Scene) :
    scene.measured = none ↔ Unmeasured scene.anchor ∨ Unmeasured scene.target := by
  rw [unmeasured_iff, unmeasured_iff, measured]
  cases scene.anchor.filter Rect.isMeasurable <;>
    cases scene.target.filter Rect.isMeasurable <;> simp

theorem Course.keyframes_exit (course : Course) : (course.motion .exit).keyframes =
    (course.motion .enter).keyframes.reverse.map fun frame =>
      { frame with offset := 1.0 - frame.offset } := by
  simp only [motion, Motion.reversed, Keyframe.placed]

namespace Animation

theorem course_unmeasured (animation : Animation) {scene : Scene} (none : scene.measured = none) :
    animation.course scene = slideCourse scene := by
  cases animation <;> simp [course, none]

def millis : Animation → Phase → Nat
  | .slide, .enter => 350
  | .slide, .exit => 200
  | .morph, .enter => 500
  | .morph, .exit => 300
  | .fly, .enter => 450
  | .fly, .exit => 350

theorem duration_measured (animation : Animation) (phase : Phase) {scene : Scene}
    {boxes : Rect × Rect} (measured : scene.measured = some boxes) :
    (animation.motion phase scene).timing.duration = Span.ofMillis (animation.millis phase) := by
  cases animation <;> cases phase <;> simp only [motion, course, measured] <;> rfl

/-- With measured boxes only the slide is the slide: in neither phase does another animation take as
long. -/
theorem motion_eq_slide (animation : Animation) (phase : Phase) (scene : Scene) :
    animation.motion phase scene = slide.motion phase scene ↔
      animation = .slide ∨ scene.measured = none := by
  constructor
  · intro same
    cases measured : scene.measured with
    | none => exact .inr rfl
    | some boxes =>
        have lasts : Span.ofMillis (animation.millis phase) =
            Span.ofMillis (slide.millis phase) := by
          rw [← animation.duration_measured phase measured, same,
            slide.duration_measured phase measured]
        left
        revert lasts
        cases animation <;> cases phase <;> decide
  · rintro (rfl | none)
    · rfl
    · rw [motion, motion, course_unmeasured animation none, course_unmeasured slide none]

/-- What an animation shows at a place, with the boxes of the trigger and of the toast if they are
known. The keyframes of its exit are those of its entrance in reverse order, the same in all but the
offset, which is what was left of the way. And growing and flying are the slide, in each of the two
phases, exactly when one of the boxes is not there or cannot be measured. -/
theorem motions_exact (position : Position) (anchor target : Option Rect) :
    let scene : Scene := { position, anchor, target }
    (∀ animation : Animation, (animation.motion .exit scene).keyframes =
      (animation.motion .enter scene).keyframes.reverse.map fun frame =>
        { frame with offset := 1.0 - frame.offset }) ∧
    ∀ phase,
      (morph.motion phase scene = slide.motion phase scene ↔
        Unmeasured anchor ∨ Unmeasured target) ∧
      (fly.motion phase scene = slide.motion phase scene ↔
        Unmeasured anchor ∨ Unmeasured target) := by
  intro scene
  constructor
  · intro animation
    rw [motion, motion]
    exact (animation.course scene).keyframes_exit
  · intro phase
    constructor
    · rw [motion_eq_slide, scene.measured_none]
      simp [scene]
    · rw [motion_eq_slide, scene.measured_none]
      simp [scene]

end Animation

end Toasts
