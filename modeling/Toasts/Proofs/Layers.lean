import Toasts.Configuration.Load

/-!
Layers of a configuration tree. A variable that spells a section and a field sets just this field,
whatever it was before. So in the tree of a document with variables over it a field has the value of
the last variable that spells it, or else the one that the document gives; and a section that no
variable reaches into is as the document has it.
-/

namespace Toasts.Configuration

namespace Tree

def at? (tree : Tree) (part name : String) : Option Tree := (tree.get? part).bind (·.get? name)

theorem get?_table (members : List (String × Tree)) (name : String) :
    (table members).get? name = (members.find? (·.1 == name)).map (·.2) := rfl

theorem find?_replaced (entries : List (String × Tree)) (name other : String) (member : Tree) :
    (entries.map fun entry => if entry.1 == name then (name, member) else entry).find?
        (·.1 == other) =
      if name = other then (entries.find? (·.1 == name)).map fun _ => (name, member)
      else entries.find? (·.1 == other) := by
  induction entries with
  | nil => simp
  | cons entry rest ih =>
      rw [List.map_cons, List.find?_cons, List.find?_cons, List.find?_cons, ih]
      by_cases hit : entry.1 = name
      · by_cases same : name = other
        · simp [hit, same]
        · simp [hit, same, beq_false_of_ne same]
      · by_cases same : name = other
        · subst same
          simp [beq_false_of_ne hit]
        · simp [hit, same]

theorem get?_set (tree : Tree) (name other : String) (member : Tree) :
    (tree.set name member).get? other = if name = other then some member else tree.get? other := by
  rw [set]
  cases known : tree.members.find? (·.1 == name) with
  | some entry =>
      have there : tree.get? name = some entry.2 := by rw [get?, known, Option.map_some]
      rw [if_pos (by rw [there, Option.isSome_some]), get?_table, find?_replaced, known]
      split
      · rfl
      · rfl
  | none =>
      have absent : tree.get? name = none := by rw [get?, known, Option.map_none]
      rw [if_neg (by simp [absent]), get?_table, List.find?_append, List.find?_singleton]
      by_cases same : name = other
      · subst same
        simp [known]
      · simp [same, get?]

theorem get?_stored {value tree after : Tree} {name : String} {steps : List Step}
    (stored : stored? value (.member name :: steps) (some tree) = some after) (other : String) :
    after.get? other =
      if name = other then stored? value steps (tree.get? name) else tree.get? other := by
  simp only [stored?, Option.getD_some, Option.bind_eq_bind, Option.bind_eq_some_iff,
    Option.pure_def, Option.some.injEq] at stored
  obtain ⟨inner, reached, rfl⟩ := stored
  rw [get?_set, reached]

end Tree

structure Variable where
  steps : List Step
  value : Tree

namespace Variable

def reaches (entry : Variable) (part : String) : Prop := entry.steps.head? = some (.member part)

def spells (entry : Variable) (part name : String) : Bool :=
  entry.steps == [.member part, .member name]

structure Simple (entry : Variable) : Prop where
  laid : ∀ under, Tree.laid entry.value under = entry.value
  begins : ∃ name rest, entry.steps = .member name :: rest

end Variable

def ownVariables (environment : List (String × String)) : List Variable :=
  environment.filterMap fun (name, text) =>
    (variablePath? name).map fun written => ⟨path written, variableValue text⟩

theorem path_begins (text : String) : ∃ name rest, path text = .member name :: rest := by
  simp only [path, memberStep?]
  split
  next => exact ⟨_, [], rfl⟩
  next =>
      simp only [Option.bind_eq_bind, Option.bind_some]
      generalize steps? _ _ = more
      cases more with
      | none => exact ⟨_, [], rfl⟩
      | some rest => exact ⟨_, rest, rfl⟩

theorem laid_variableValue (text : String) (under : Option Tree) :
    Tree.laid (variableValue text) under = variableValue text := by
  simp only [variableValue]
  split
  · rfl
  · rfl
  · split
    · rfl
    · split <;> rfl

theorem ownVariables_simple (environment : List (String × String)) :
    ∀ entry ∈ ownVariables environment, entry.Simple := by
  intro entry member
  obtain ⟨⟨name, text⟩, _, made⟩ := List.mem_filterMap.mp member
  obtain ⟨written, _, rfl⟩ := Option.map_eq_some_iff.mp made
  exact ⟨laid_variableValue text, path_begins written⟩

def Tree.withAll? (tree : Tree) (entries : List Variable) : Option Tree :=
  entries.foldlM (fun tree entry => Tree.stored? entry.value entry.steps (some tree)) tree

theorem Tree.withVariables?_eq (tree : Tree) (environment : List (String × String)) :
    tree.withVariables? environment = tree.withAll? (ownVariables environment) := by
  simp only [withVariables?, withAll?]
  induction environment generalizing tree with
  | nil => rfl
  | cons pair rest ih =>
      obtain ⟨name, text⟩ := pair
      rw [List.foldlM_cons]
      cases written : variablePath? name with
      | none =>
          have skipped : ownVariables ((name, text) :: rest) = ownVariables rest :=
            List.filterMap_cons_none (by simp [written])
          rw [skipped]
          exact ih tree
      | some spelled =>
          have more : ownVariables ((name, text) :: rest) =
              ⟨path spelled, variableValue text⟩ :: ownVariables rest :=
            List.filterMap_cons_some (by simp [written])
          rw [more, List.foldlM_cons]
          simp only [Tree.store?]
          congr 1
          funext next
          exact ih next

/-- Whatever reaches into a section spells one of its fields. -/
def Plain (entries : List Variable) (part : String) : Prop :=
  ∀ entry ∈ entries, entry.reaches part → ∃ name, entry.spells part name = true

def Untouched (entries : List Variable) (part : String) : Prop :=
  ∀ entry ∈ entries, ¬ entry.reaches part

def lastSpelled? (entries : List Variable) (part name : String) : Option Tree :=
  (entries.reverse.find? (·.spells part name)).map (·.value)

variable {tree after : Tree} {entry : Variable} {entries : List Variable} {part : String}

theorem Variable.Simple.get?_stored (simple : entry.Simple)
    (stored : Tree.stored? entry.value entry.steps (some tree) = some after)
    (untouched : ¬ entry.reaches part) : after.get? part = tree.get? part := by
  obtain ⟨first, rest, begins⟩ := simple.begins
  rw [begins] at stored
  have apart : first ≠ part := by
    rintro rfl
    exact untouched (by simp [Variable.reaches, begins])
  rw [Tree.get?_stored stored part, if_neg apart]

theorem Variable.Simple.at?_stored (simple : entry.Simple)
    (stored : Tree.stored? entry.value entry.steps (some tree) = some after)
    (plain : entry.reaches part → ∃ name, entry.spells part name = true) (name : String) :
    after.at? part name =
      if entry.spells part name then some entry.value else tree.at? part name := by
  by_cases reaches : entry.reaches part
  · obtain ⟨field, spelled⟩ := plain reaches
    have steps : entry.steps = [.member part, .member field] := by simpa [spells] using spelled
    rw [steps] at stored
    rw [Tree.at?, Tree.get?_stored stored part, if_pos rfl]
    have inner : Tree.stored? entry.value [.member field] (tree.get? part) =
        some (((tree.get? part).getD .nothing).set field entry.value) := by
      simp [Tree.stored?, simple.laid]
    rw [inner, Option.bind_some, Tree.get?_set]
    by_cases hit : field = name
    · simp [spells, steps, hit]
    · have old : ((tree.get? part).getD .nothing).get? name = tree.at? part name := by
        rw [Tree.at?]
        cases tree.get? part <;> rfl
      simp [spells, steps, hit, old]
  · have other : entry.spells part name = false := by
      cases spelled : entry.spells part name with
      | false => rfl
      | true =>
          have steps : entry.steps = [.member part, .member name] := by simpa [spells] using spelled
          exact absurd (by simp [Variable.reaches, steps]) reaches
    simp [Tree.at?, simple.get?_stored stored reaches, other]

theorem Tree.get?_withAll (simple : ∀ entry ∈ entries, entry.Simple)
    (stored : tree.withAll? entries = some after) (untouched : Untouched entries part) :
    after.get? part = tree.get? part := by
  induction entries generalizing tree with
  | nil =>
      obtain rfl := Option.some.inj stored
      rfl
  | cons entry rest ih =>
      obtain ⟨next, first, later⟩ := Option.bind_eq_some_iff.mp stored
      obtain ⟨head, simple⟩ := List.forall_mem_cons.mp simple
      obtain ⟨apart, untouched⟩ := List.forall_mem_cons.mp untouched
      exact (ih simple later untouched).trans (head.get?_stored first apart)

/-- A section that is a list gives its fields by place, not by name. -/
def Tree.Tabular (tree : Tree) (part : String) : Prop :=
  ∀ elements, tree.get? part ≠ some (.list elements)

theorem Variable.Simple.tabular_stored (simple : entry.Simple)
    (stored : Tree.stored? entry.value entry.steps (some tree) = some after)
    (plain : entry.reaches part → ∃ name, entry.spells part name = true)
    (tabular : tree.Tabular part) : after.Tabular part := by
  by_cases reaches : entry.reaches part
  · obtain ⟨field, spelled⟩ := plain reaches
    have steps : entry.steps = [.member part, .member field] := by simpa [spells] using spelled
    rw [steps] at stored
    intro elements
    rw [Tree.get?_stored stored part, if_pos rfl]
    simp only [Tree.stored?, Option.bind_eq_bind, Option.bind_some, Option.pure_def, Tree.set]
    split <;> simp
  · intro elements
    rw [simple.get?_stored stored reaches]
    exact tabular elements

theorem Tree.tabular_withAll (simple : ∀ entry ∈ entries, entry.Simple)
    (stored : tree.withAll? entries = some after) (plain : Plain entries part)
    (tabular : tree.Tabular part) : after.Tabular part := by
  induction entries generalizing tree with
  | nil =>
      obtain rfl := Option.some.inj stored
      exact tabular
  | cons entry rest ih =>
      obtain ⟨next, first, later⟩ := Option.bind_eq_some_iff.mp stored
      obtain ⟨head, simple⟩ := List.forall_mem_cons.mp simple
      obtain ⟨spells, plain⟩ := List.forall_mem_cons.mp plain
      exact ih simple later plain (head.tabular_stored first spells tabular)

/-- Variables win over what was there, and of two that spell the same field the last one does. -/
theorem Tree.at?_withAll (simple : ∀ entry ∈ entries, entry.Simple)
    (stored : tree.withAll? entries = some after) (plain : Plain entries part) (name : String) :
    after.at? part name = (lastSpelled? entries part name <|> tree.at? part name) := by
  induction entries generalizing tree with
  | nil =>
      obtain rfl := Option.some.inj stored
      rfl
  | cons entry rest ih =>
      obtain ⟨next, first, later⟩ := Option.bind_eq_some_iff.mp stored
      obtain ⟨head, simple⟩ := List.forall_mem_cons.mp simple
      obtain ⟨spells, plain⟩ := List.forall_mem_cons.mp plain
      -- The first variable counts only if no later one spells the field too.
      rw [ih simple later plain, head.at?_stored first spells]
      simp only [lastSpelled?, List.reverse_cons, List.find?_append, List.find?_singleton]
      cases rest.reverse.find? (·.spells part name) with
      | some winner => rfl
      | none =>
          by_cases hit : entry.spells part name = true
          · simp [hit]
          · simp [hit]

theorem lastSpelled?_untouched (untouched : Untouched entries part) (name : String) :
    lastSpelled? entries part name = none := by
  have missed : entries.reverse.find? (·.spells part name) = none := by
    rw [List.find?_eq_none]
    intro entry member spelled
    have steps : entry.steps = [.member part, .member name] := by
      simpa [Variable.spells] using spelled
    exact untouched entry (List.mem_reverse.mp member) (by simp [Variable.reaches, steps])
  rw [lastSpelled?, missed, Option.map_none]

end Toasts.Configuration
