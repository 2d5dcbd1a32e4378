import Toasts.Console.Renderer
import Toasts.Proofs.Slots

/-!
What one frame draws. The layout gives every toast of the snapshot a place. An entrance begins with
the frame for each toast that enters, as far as its identity is known to the engine; an exit begins
for each edition on its way out that the renderer does not remember, and it remembers it from then on.
-/

namespace Toasts.Console

def MotionEvent.editions (phase : Phase) (events : List MotionEvent) : List Nat :=
  (events.filter fun event => decide (event.phase = phase)).map (·.edition)

def Picture.begun (phase : Phase) (picture : Picture) : List Nat :=
  MotionEvent.editions phase picture.events

theorem MotionEvent.editions_append (phase : Phase) (first second : List MotionEvent) :
    editions phase (first ++ second) = editions phase first ++ editions phase second := by
  simp [editions]

theorem mem_begun_append {phase : Phase} {pictures : List Picture} {picture : Picture}
    {edition : Nat} : edition ∈ (pictures ++ [picture]).flatMap (·.begun phase) ↔
      edition ∈ pictures.flatMap (·.begun phase) ∨ edition ∈ picture.begun phase := by
  rw [List.flatMap_append, List.flatMap_singleton, List.mem_append]

theorem mem_layout {snapshot : List Toast} {toast : Toast} :
    (∃ place ∈ layout snapshot, place.1 = toast) ↔ toast ∈ snapshot := by
  rw [← (layout_perm snapshot).mem_iff, List.mem_map]

namespace Renderer

variable {renderer : Renderer} {engine : Engine} {snapshot : List Toast} {edition : Nat}

def enters (engine : Engine) (place : Toast × Rect) : Bool :=
  !place.1.exiting && decide (place.1.lifecycle = .entering) && (engine.get? place.1.id).isSome

theorem entrances_events (renderer : Renderer) (engine : Engine) (places : List (Toast × Rect)) :
    MotionEvent.editions .enter (renderer.events engine places).2 =
      (places.filter (enters engine)).map (·.1.edition) := by
  induction places generalizing renderer with
  | nil => rfl
  | cons place rest ih =>
      have first : MotionEvent.editions .enter (renderer.event? engine place).toList =
          if enters engine place then [place.1.edition] else [] := by
        cases exiting : place.1.exiting <;>
          by_cases entering : place.1.lifecycle = .entering <;>
          cases found : engine.get? place.1.id <;>
          cases seen : renderer.exited.contains place.1.edition <;>
          simp_all [MotionEvent.editions, event?, enters, Engine.motion?]
      rw [events, MotionEvent.editions_append, first, ih, List.filter_cons]
      split <;> rfl

theorem exits_event (renderer : Renderer) (engine : Engine) (place : Toast × Rect) :
    MotionEvent.editions .exit (renderer.event? engine place).toList = [] ∨
      MotionEvent.editions .exit (renderer.event? engine place).toList = [place.1.edition] ∧
        place.1.edition ∉ renderer.exited ∧
        place.1.edition ∈ (renderer.remember place.1).exited := by
  cases exiting : place.1.exiting <;>
    by_cases entering : place.1.lifecycle = .entering <;>
    cases found : engine.get? place.1.id <;>
    cases seen : renderer.exited.contains place.1.edition <;>
    simp_all [MotionEvent.editions, event?, remember, Engine.motion?]

theorem exited_remember (renderer : Renderer) (toast : Toast) :
    ∀ edition ∈ renderer.exited, edition ∈ (renderer.remember toast).exited := by
  intro edition member
  simp only [remember]
  split
  · exact List.mem_cons_of_mem _ member
  · exact member

theorem exits_events (renderer : Renderer) (engine : Engine) (places : List (Toast × Rect)) :
    let remembered := (renderer.events engine places).1
    let exits := MotionEvent.editions .exit (renderer.events engine places).2
    exits.Nodup ∧ (∀ edition ∈ renderer.exited, edition ∈ remembered.exited) ∧
      ∀ edition ∈ exits, edition ∉ renderer.exited ∧ edition ∈ remembered.exited := by
  induction places generalizing renderer with
  | nil => simp [events, MotionEvent.editions]
  | cons place rest ih =>
      obtain ⟨distinct, kept, new⟩ := ih (renderer.remember place.1)
      have older := renderer.exited_remember place.1
      simp only [events, MotionEvent.editions_append]
      rcases renderer.exits_event engine place with none | ⟨single, unseen, seen⟩
      · rw [none, List.nil_append]
        exact ⟨distinct, fun edition member => kept edition (older edition member),
          fun edition member => ⟨fun before => (new edition member).1 (older edition before),
            (new edition member).2⟩⟩
      · rw [single, List.singleton_append]
        refine ⟨List.nodup_cons.mpr ⟨fun again => (new _ again).1 seen, distinct⟩,
          fun edition member => kept edition (older edition member), ?_⟩
        refine List.forall_mem_cons.mpr ⟨⟨unseen, kept _ seen⟩, fun edition member => ?_⟩
        exact ⟨fun before => (new edition member).1 (older edition before), (new edition member).2⟩

theorem begun_exit (renderer : Renderer) (engine : Engine) (snapshot : List Toast) :
    let drawn := renderer.draw engine snapshot
    (drawn.2.begun .exit).Nodup ∧ (∀ edition ∈ renderer.exited, edition ∈ drawn.1.exited) ∧
      ∀ edition ∈ drawn.2.begun .exit, edition ∉ renderer.exited ∧ edition ∈ drawn.1.exited :=
  exits_events { renderer with frames := renderer.frames + 1 } engine (layout snapshot)

theorem mem_begun_enter : edition ∈ (renderer.draw engine snapshot).2.begun .enter ↔
    ∃ toast ∈ snapshot, toast.edition = edition ∧ toast.exiting = false ∧
      toast.lifecycle = .entering ∧ (engine.get? toast.id).isSome = true := by
  have shape : (renderer.draw engine snapshot).2.begun .enter =
      ((layout snapshot).filter (enters engine)).map (·.1.edition) := entrances_events _ _ _
  rw [shape, List.mem_map]
  constructor
  · rintro ⟨place, member, rfl⟩
    obtain ⟨placed, enters⟩ := List.mem_filter.mp member
    refine ⟨place.1, mem_layout.mp ⟨place, placed, rfl⟩, rfl, ?_⟩
    simpa [Renderer.enters, and_assoc] using enters
  · rintro ⟨toast, member, rfl, enters⟩
    obtain ⟨place, placed, rfl⟩ := mem_layout.mpr member
    exact ⟨place, List.mem_filter.mpr ⟨placed, by simpa [Renderer.enters, and_assoc] using enters⟩,
      rfl⟩

theorem begun_enter_distinct (distinct : (snapshot.map (·.edition)).Nodup) :
    ((renderer.draw engine snapshot).2.begun .enter).Nodup := by
  have shape : (renderer.draw engine snapshot).2.begun .enter =
      ((layout snapshot).filter (enters engine)).map (·.1.edition) := entrances_events _ _ _
  have places : ((layout snapshot).map (·.1.edition)).Nodup := by
    have editions := (layout_perm snapshot).map (·.edition)
    rw [List.map_map] at editions
    exact editions.nodup_iff.mpr distinct
  rw [shape]
  exact places.sublist (List.filter_sublist.map _)

theorem mem_reports {id : ToastId} : id ∈ reports snapshot ↔
    ∃ toast ∈ snapshot, toast.lifecycle = .entering ∧ toast.id = id := by
  simp only [reports, List.mem_map, List.mem_filter, decide_eq_true_eq]
  constructor
  · rintro ⟨place, ⟨placed, entering⟩, same⟩
    exact ⟨place.1, mem_layout.mp ⟨place, placed, rfl⟩, entering, same⟩
  · rintro ⟨toast, member, entering, same⟩
    obtain ⟨place, placed, rfl⟩ := mem_layout.mpr member
    exact ⟨place, ⟨placed, entering⟩, same⟩

end Renderer

end Toasts.Console
