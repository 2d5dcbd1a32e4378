import Mathlib.Data.List.Basic
import Toasts.Console.Layout

/-!
The order of the layout. Every toast has a slot of its own in the stack at its position: it is as
far from the edge of the screen as there are toasts at this position before it in the snapshot. The
layout is the stable sort of the toasts by position, each with the box of its slot. This is because
a sorted list is made of its parts at one position after the other, and a stable sort leaves each
part as it is.
-/

namespace Toasts

def Position.rank (position : Position) : Nat := Position.all.idxOf position

theorem Position.ranks_increase :
    Position.all.Pairwise fun first second => first.rank < second.rank := by decide

namespace Console

section Sorting

variable {Item : Type} {site : Item → Position} {items : List Item}

def inOrder (site : Item → Position) (first second : Item) : Bool :=
  decide ((site first).rank ≤ (site second).rank)

def part (site : Item → Position) (position : Position) (items : List Item) : List Item :=
  items.filter fun item => decide (site item = position)

theorem inOrder_trans (first second third : Item) (one : inOrder site first second = true)
    (other : inOrder site second third = true) : inOrder site first third = true := by
  simp only [inOrder, decide_eq_true_eq] at *
  omega

theorem inOrder_total (first second : Item) :
    (inOrder site first second || inOrder site second first) = true := by
  simp only [inOrder, Bool.or_eq_true, decide_eq_true_eq]
  omega

theorem filter_first {pick : Item → Bool}
    (first : items.Pairwise fun earlier later => pick later = true → pick earlier = true) :
    items.filter pick ++ items.filter (!pick ·) = items := by
  induction items with
  | nil => rfl
  | cons item rest ih =>
      obtain ⟨before, first⟩ := List.pairwise_cons.mp first
      cases picked : pick item with
      | true => simp [picked, ih first]
      | false =>
          have none : ∀ later ∈ rest, pick later = false := by
            intro later member
            by_contra found
            have earlier := before later member (by simpa using found)
            simp [picked] at earlier
          have left : rest.filter pick = [] := by simpa using none
          have right : rest.filter (!pick ·) = rest := by simpa using none
          simp [picked, left, right]

theorem part_rest {position other : Position} (apart : position ≠ other) :
    part site position (items.filter fun item => !decide (site item = other)) =
      part site position items := by
  rw [part, part, List.filter_filter]
  apply List.filter_congr
  intro item _
  by_cases here : site item = position
  · simp [here, apart]
  · simp [here]

theorem flatMap_parts {positions : List Position}
    (increase : positions.Pairwise fun first second => first.rank < second.rank)
    (known : ∀ item ∈ items, site item ∈ positions)
    (sorted : items.Pairwise fun first second => inOrder site first second = true) :
    positions.flatMap (part site · items) = items := by
  induction positions generalizing items with
  | nil =>
      have none : items = [] :=
        List.eq_nil_iff_forall_not_mem.mpr fun item member => by cases known item member
      exact none.symm
  | cons lowest positions ih =>
      obtain ⟨above, increase⟩ := List.pairwise_cons.mp increase
      let others := items.filter fun item => !decide (site item = lowest)
      have higher : ∀ item ∈ others, site item ∈ positions := by
        intro item member
        obtain ⟨member, other⟩ := List.mem_filter.mp member
        rcases List.mem_cons.mp (known item member) with same | higher
        · simp [same] at other
        · exact higher
      have rest : positions.flatMap (part site · others) = others :=
        ih increase higher (sorted.sublist List.filter_sublist)
      have parts :
          positions.flatMap (part site · others) = positions.flatMap (part site · items) := by
        apply List.flatMap_congr
        intro position member
        apply part_rest
        rintro rfl
        exact Nat.lt_irrefl _ (above position member)
      rw [List.flatMap_cons, ← parts, rest]
      apply filter_first
      apply List.Pairwise.imp_of_mem ?_ sorted
      intro earlier later member _ upTo here
      rw [decide_eq_true_eq] at here ⊢
      rw [inOrder, here, decide_eq_true_eq] at upTo
      rcases List.mem_cons.mp (known earlier member) with same | higher
      · exact same
      · have := above _ higher
        omega

/-- A stable sort leaves what sits at one position in its order. -/
theorem part_mergeSort (position : Position) :
    part site position (items.mergeSort (inOrder site)) = part site position items := by
  have level : (part site position items).Pairwise fun first second =>
      inOrder site first second = true := by
    apply List.pairwise_of_forall_mem_list
    intro first one second other
    have one := of_decide_eq_true (List.mem_filter.mp one).2
    have other := of_decide_eq_true (List.mem_filter.mp other).2
    simp [inOrder, one, other]
  have kept := List.sublist_mergeSort inOrder_trans inOrder_total level List.filter_sublist
  have within : (part site position items).Sublist
      (part site position (items.mergeSort (inOrder site))) := by
    simpa [part, List.filter_filter] using kept.filter fun item => decide (site item = position)
  have length := ((List.mergeSort_perm items (inOrder site)).filter
    fun item => decide (site item = position)).length_eq
  exact (within.eq_of_length length.symm).symm

end Sorting

/-- The toasts of a snapshot in their order, each with the box of its slot: the slots of a stack are
given out in the order of the snapshot. -/
def slotted (snapshot : List Toast) : List (Toast × Rect) :=
  snapshot.zipIdx.map fun (toast, index) =>
    (toast, slotRect toast.position
      ((snapshot.take index).countP fun earlier => decide (earlier.position = toast.position)))

variable {position : Position}

theorem map_slotted (snapshot : List Toast) : (slotted snapshot).map (·.1) = snapshot := by
  simp [slotted, Function.comp_def]

theorem stack_eq (position : Position) (slot : Nat) (toasts : List Toast) :
    stack position slot toasts =
      (toasts.zipIdx slot).map fun (toast, slot) => (toast, slotRect position slot) := by
  induction toasts generalizing slot with
  | nil => rfl
  | cons toast rest ih => rw [stack, ih, List.zipIdx_cons, List.map_cons]

theorem stack_later (earlier later : List Toast) :
    stack position (earlier.countP fun toast => decide (toast.position = position))
        (part Toast.position position later) =
      part (·.1.position) position ((later.zipIdx earlier.length).map fun (toast, index) =>
        (toast, slotRect toast.position (((earlier ++ later).take index).countP fun other =>
          decide (other.position = toast.position)))) := by
  induction later generalizing earlier with
  | nil => rfl
  | cons toast rest ih =>
      have next := ih (earlier ++ [toast])
      rw [List.append_assoc, List.singleton_append, List.length_append, List.length_singleton,
        List.countP_append] at next
      by_cases here : toast.position = position
      · have own : [toast].countP (fun other => decide (other.position = position)) = 1 := by
          simp [here]
        rw [own] at next
        simp only [part, List.filter_cons, here, decide_true, if_true, List.zipIdx_cons,
          List.map_cons, stack, List.take_left'] at next ⊢
        rw [next]
      · have other : [toast].countP (fun other => decide (other.position = position)) = 0 := by
          simp [here]
        rw [other, Nat.add_zero] at next
        simp only [part, List.filter_cons, here, decide_false, List.zipIdx_cons,
          List.map_cons] at next ⊢
        exact next

theorem stack_slotted (position : Position) (snapshot : List Toast) :
    stack position 0 (part Toast.position position snapshot) =
      part (·.1.position) position (slotted snapshot) :=
  stack_later [] snapshot

theorem layout_eq (snapshot : List Toast) :
    layout snapshot = (slotted snapshot).mergeSort (inOrder (·.1.position)) := by
  let site (place : Toast × Rect) : Position := place.1.position
  let sorted := (slotted snapshot).mergeSort (inOrder site)
  have parts : layout snapshot = Position.all.flatMap (part site · sorted) := by
    apply List.flatMap_congr
    intro position _
    exact (stack_slotted position snapshot).trans (part_mergeSort position).symm
  rw [parts]
  apply flatMap_parts Position.ranks_increase
  · intro place _
    exact place.1.position.mem_all
  · exact List.pairwise_mergeSort inOrder_trans inOrder_total _

theorem map_layout (snapshot : List Toast) :
    (layout snapshot).map (·.1) = snapshot.mergeSort (inOrder Toast.position) := by
  have sorted : ((slotted snapshot).mergeSort (inOrder (·.1.position))).map (·.1) =
      ((slotted snapshot).map (·.1)).mergeSort (inOrder Toast.position) :=
    List.map_mergeSort fun _ _ _ _ => rfl
  rw [layout_eq, sorted, map_slotted]

theorem layout_perm (snapshot : List Toast) : ((layout snapshot).map (·.1)).Perm snapshot := by
  rw [map_layout]
  exact List.mergeSort_perm _ _

/-- The layout places every toast once, where it belongs. The toasts of a snapshot stand in it as
their stable sort by position, in the order in which positions are listed. Each of them comes with
the slot at its position that has as its number how many toasts at this position come before it in
the snapshot. So in each stack the slots are given out one after the other from the first on, in the
order of the snapshot. -/
theorem layout_exact (snapshot : List Toast) :
    (layout snapshot).map (·.1) = snapshot.mergeSort (inOrder Toast.position) ∧
    (layout snapshot).Perm (snapshot.zipIdx.map fun (toast, index) =>
      (toast, slotRect toast.position ((snapshot.take index).countP fun earlier =>
        decide (earlier.position = toast.position)))) ∧
    ((layout snapshot).Pairwise fun first second =>
      Position.all.idxOf first.1.position ≤ Position.all.idxOf second.1.position) ∧
    ∀ position, (layout snapshot).filter (fun place => decide (place.1.position = position)) =
      (snapshot.filter fun toast => decide (toast.position = position)).zipIdx.map
        fun (toast, slot) => (toast, slotRect position slot) := by
  refine ⟨map_layout snapshot, ?_, ?_, ?_⟩
  · rw [layout_eq]
    exact List.mergeSort_perm _ _
  · have sorted : (layout snapshot).Pairwise fun first second =>
        inOrder (·.1.position) first second = true := by
      rw [layout_eq]
      exact List.pairwise_mergeSort inOrder_trans inOrder_total _
    exact sorted.imp of_decide_eq_true
  · intro position
    have sorted : part (·.1.position) position (layout snapshot) =
        part (·.1.position) position (slotted snapshot) := by
      rw [layout_eq, part_mergeSort]
    calc part (·.1.position) position (layout snapshot)
      _ = part (·.1.position) position (slotted snapshot) := sorted
      _ = stack position 0 (part Toast.position position snapshot) :=
          (stack_slotted position snapshot).symm
      _ = _ := stack_eq position 0 _

end Console

end Toasts
