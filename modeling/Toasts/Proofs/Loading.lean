import Toasts.Proofs.Fields

/-!
Loading a configuration. The tree is that of the document with the variables over it, so a field has
the value of the highest layer that gives it one: its short variable, the last variable that spells
it, the document, or its standard value. Where something goes wrong, the first thing that does is
reported, unless it overruns: a written span of time or an index beyond all bounds stops everything.
-/

namespace Toasts

open Toasts.Configuration

namespace Surroundings

variable {surroundings : Surroundings} {path : String} {merged : Tree}

def bare (surroundings : Surroundings) : Surroundings := { surroundings with environment := [] }

def members? (surroundings : Surroundings) (path : String) : Option (List (String × Tree)) :=
  match surroundings.folder.document? path with
  | none => some []
  | some text => (Toml.read? text).map Tree.ofMembers

def grown? (members : List (String × Tree)) : Option Tree :=
  members.foldlM (fun tree (name, value) => tree.store? name value) (Tree.table [])

theorem tree_eq (surroundings : Surroundings) (path : String) : surroundings.tree path =
    match surroundings.members? path with
    | none => .error .syntaxError
    | some members =>
        match (grown? members).bind (·.withAll? (ownVariables surroundings.environment)) with
        | none => .error .overrun
        | some tree => .ok tree := by
  simp only [← Tree.withVariables?_eq]
  rw [tree, members?]
  cases surroundings.folder.document? path with
  | none => rfl
  | some text =>
      dsimp only
      cases Toml.read? text <;> rfl

theorem tree_ok_iff : surroundings.tree path = .ok merged ↔
    ∃ members document, surroundings.members? path = some members ∧
      grown? members = some document ∧
      document.withAll? (ownVariables surroundings.environment) = some merged := by
  rw [tree_eq]
  cases surroundings.members? path with
  | none => simp
  | some members =>
      cases grown : grown? members with
      | none => simp [grown]
      | some document =>
          cases laid : document.withAll? (ownVariables surroundings.environment) with
          | none => simp [grown, laid]
          | some tree => simp [grown, laid]

theorem members?_none : surroundings.members? path = none ↔
    ∃ text, surroundings.folder.document? path = some text ∧ Toml.read? text = none := by
  rw [members?]
  cases surroundings.folder.document? path with
  | none => simp
  | some text => simp

theorem tree_syntaxError : surroundings.tree path = .error .syntaxError ↔
    ∃ text, surroundings.folder.document? path = some text ∧ Toml.read? text = none := by
  rw [← members?_none, tree_eq]
  cases surroundings.members? path with
  | none => simp
  | some members =>
      dsimp only
      split <;> simp

theorem tree_layers (stored : surroundings.tree path = .ok merged) :
    ∃ document, surroundings.bare.tree path = .ok document ∧
      document.withAll? (ownVariables surroundings.environment) = some merged := by
  obtain ⟨members, document, read, grown, laid⟩ := tree_ok_iff.mp stored
  exact ⟨document, tree_ok_iff.mpr ⟨members, document, read, grown, rfl⟩, laid⟩

end Surroundings

namespace Configuration

variable {surroundings : Surroundings} {path : String} {document merged tree : Tree}
  {entries : List Variable} {α : Type} {field : Field α}

namespace Field

def layers (field : Field α) (surroundings : Surroundings) (document : Tree) :
    List (Option (Except ConfigurationFault α)) :=
  [(field.short? surroundings).map field.ofText,
    (lastSpelled? (ownVariables surroundings.environment) field.part field.name).map field.ofTree,
    (field.given? document).map field.ofTree,
    some (.ok field.standard)]

/-- Name by name, a section is merged with the variables that reach into it. -/
def Merges (field : Field α) (entries : List Variable) (document : Tree) : Prop :=
  Untouched entries field.part ∨ Plain entries field.part ∧ document.Tabular field.part

theorem given?_tabular (tabular : tree.Tabular field.part) :
    field.given? tree = tree.at? field.part field.name := by
  rw [given?, Tree.at?]
  cases present : tree.get? field.part with
  | none => rfl
  | some inner =>
      cases inner with
      | list elements => exact absurd present (tabular elements)
      | _ => rfl

theorem given?_withAll (simple : ∀ entry ∈ entries, entry.Simple)
    (stored : document.withAll? entries = some merged) (merges : field.Merges entries document) :
    field.given? merged =
      (lastSpelled? entries field.part field.name <|> field.given? document) := by
  rcases merges with untouched | ⟨plain, tabular⟩
  · rw [lastSpelled?_untouched untouched, given?, given?, Tree.get?_withAll simple stored untouched]
    rfl
  · rw [given?_tabular tabular, given?_tabular (Tree.tabular_withAll simple stored plain tabular)]
    exact Tree.at?_withAll simple stored plain field.name

theorem highest_layers (field : Field α)
    (stored : document.withAll? (ownVariables surroundings.environment) = some merged)
    (merges : field.Merges (ownVariables surroundings.environment) document) :
    (field.layers surroundings document).findSome? id =
      some (field.highest surroundings merged) := by
  rw [highest, layers]
  cases field.short? surroundings with
  | some text => rfl
  | none =>
      dsimp only
      rw [lower, given?_withAll (ownVariables_simple _) stored merges]
      cases lastSpelled? (ownVariables surroundings.environment) field.part field.name with
      | some value => rfl
      | none => cases field.given? document <;> rfl

end Field

/-- A reader of trees overruns at nothing but a written span of time. -/
def Timely (read : Tree → Except ConfigurationFault α) : Prop :=
  ∀ value, read value = .error .overrun →
    ∃ text, value = .written text ∧ Span.parse (Text.trim text) = .error .overrun

theorem asText_timely : Timely Tree.asText := by
  rintro (_ | _ | _ | _ | _ | _ | _) failed <;> cases failed

theorem asFlag_timely : Timely Tree.asFlag := by
  intro value failed
  simp only [Tree.asFlag] at failed
  split at failed
  · cases failed
  · cases failed
  · cases failed
  · split at failed <;> cases failed
  · cases failed

theorem asCount_timely : Timely Tree.asCount := by
  intro value failed
  cases value with
  | whole number =>
      simp only [Tree.asCount] at failed
      split at failed <;> cases failed
  | written text =>
      simp only [Tree.asCount, Tree.countOfText] at failed
      repeat' split at failed
      all_goals cases failed
  | _ => cases failed

theorem parse_overrun {text written : String}
    (failed : Lifespan.parse text = .error ⟨written, .overrun⟩) :
    Span.parse (Text.trim text) = .error .overrun := by
  simp only [Lifespan.parse] at failed
  split at failed
  · cases failed
  · split at failed
    · cases failed
    · split at failed
      next => cases failed
      next cause fault =>
          obtain ⟨rfl, rfl⟩ := Lifespan.Fault.mk.inj (Except.error.inj failed)
          exact fault

theorem asLifespan_timely : Timely Tree.asLifespan := by
  intro value failed
  cases value with
  | written text =>
      simp only [Tree.asLifespan] at failed
      split at failed
      next => cases failed
      next written overrun => exact ⟨text, rfl, parse_overrun overrun⟩
      next => cases failed
  | _ => cases failed

theorem asSpan_timely : Timely Tree.asSpan := by
  intro value failed
  cases value with
  | whole number =>
      simp only [Tree.asSpan] at failed
      split at failed <;> cases failed
  | written text =>
      simp only [Tree.asSpan] at failed
      split at failed
      next => cases failed
      next overrun => exact ⟨text, rfl, overrun⟩
      next => cases failed
  | _ => cases failed

inductive Overruns (surroundings : Surroundings) (path : String) : Prop where
  | place (stored : surroundings.tree path = .error .overrun)
  | short (text : String) (asked : surroundings.override? "NOTIX_DURATION" = some text)
      (overruns : Span.parse (Text.trim text) = .error .overrun)
  | given {α : Type} (field : Field α) (tree : Tree) (text : String)
      (stored : surroundings.tree path = .ok tree)
      (given : field.given? tree = some (.written text))
      (overruns : Span.parse (Text.trim text) = .error .overrun)

section

variable (stored : surroundings.tree path = .ok tree)

include stored

theorem Field.lower_overruns (field : Field α) (timely : Timely field.ofTree)
    (failed : field.lower tree = .error .overrun) : Overruns surroundings path := by
  rw [lower] at failed
  split at failed
  next value given =>
      obtain ⟨text, rfl, overruns⟩ := timely value failed
      exact .given field tree text stored given overruns
  next => cases failed

/-- A field that overruns does so for its own short variable, if at all, or in the tree. -/
theorem Field.highest_overruns (field : Field α) (timely : Timely field.ofTree)
    (spoken : ∀ text, field.short? surroundings = some text → field.ofText text = .error .overrun →
      Overruns surroundings path)
    (failed : field.highest surroundings tree = .error .overrun) : Overruns surroundings path := by
  rw [highest] at failed
  split at failed
  next text asked => exact spoken text asked failed
  next => exact field.lower_overruns stored timely failed

theorem shape_overruns (member : some .overrun ∈ shapeComplaints tree) :
    Overruns surroundings path := by
  have opened {names : List String} {part : Option Tree}
      (failed : some .overrun = fault? (sectionOf names part)) : False := by
    cases part with
    | none => cases failed
    | some inner => cases inner <;> cases failed
  have read {α : Type} (field : Field α) (timely : Timely field.ofTree)
      (failed : some .overrun = fault? (field.lower tree)) : Overruns surroundings path :=
    field.lower_overruns stored timely (fault?_eq_some.mp failed.symm)
  simp only [shapeComplaints, List.mem_cons, List.not_mem_nil, or_false] at member
  rcases member with toasts | position | lifespan | exitWindow | animation | autopilot | enabled |
    expandAfter | collapseAfter | renderer | queueBound
  · exact (opened toasts).elim
  · exact read .position asText_timely position
  · exact read .lifespan asLifespan_timely lifespan
  · exact read .exitWindow asSpan_timely exitWindow
  · exact read .animation asText_timely animation
  · exact (opened autopilot).elim
  · exact read .enabled asFlag_timely enabled
  · exact read .expandAfter asSpan_timely expandAfter
  · exact read .collapseAfter asSpan_timely collapseAfter
  · exact (opened renderer).elim
  · exact read .queueBound asCount_timely queueBound

theorem short_overruns (member : some .overrun ∈ shortComplaints surroundings tree) :
    Overruns surroundings path := by
  simp only [shortComplaints, List.mem_cons, List.not_mem_nil, or_false] at member
  rcases member with lifespan | enabled
  · refine Field.lifespan.highest_overruns stored asLifespan_timely ?_
      (fault?_eq_some.mp lifespan.symm)
    intro text asked failed
    have asked' : surroundings.override? "NOTIX_DURATION" = some text := asked
    simp only [Field.lifespan] at failed
    split at failed
    next => cases failed
    next written overrun => exact .short text asked' (parse_overrun overrun)
    next => cases failed
  · refine Field.enabled.highest_overruns stored asFlag_timely ?_ (fault?_eq_some.mp enabled.symm)
    intro text asked failed
    simp only [Field.enabled] at failed
    split at failed <;> cases failed

theorem check_overruns (member : some .overrun ∈ checkComplaints surroundings tree) :
    Overruns surroundings path := by
  -- No check overruns, only the value that it is about.
  have counted {α β : Type} {outcome : Except ConfigurationFault α}
      {check : α → Except ConfigurationFault β} (total : ∀ value, check value ≠ .error .overrun)
      (failed : outcome >>= check = .error .overrun) : outcome = .error .overrun := by
    cases outcome with
    | error fault => exact congrArg _ (Except.error.inj failed)
    | ok value => exact absurd failed (total value)
  have position (text : String) : positionNamed text ≠ .error .overrun := by
    rw [positionNamed]
    cases Position.parse text <;> rintro ⟨⟩
  have animation (text : String) : animationNamed text ≠ .error .overrun := by
    rw [animationNamed]
    cases Animation.parse text <;> rintro ⟨⟩
  have lasts (exitWindow : Span) : lasting exitWindow ≠ .error .overrun := by
    rw [lasting]
    split <;> simp
  have ordered (expand collapse : Span) : inOrder expand collapse ≠ .error .overrun := by
    rw [inOrder]
    split <;> simp
  have room (bound : Nat) : roomy bound ≠ .error .overrun := by
    rw [roomy]
    split <;> simp
  simp only [checkComplaints, List.mem_cons, List.not_mem_nil, or_false] at member
  rcases member with failed | failed | failed | failed | failed
  · exact Field.position.highest_overruns stored asText_timely
      (fun text _ spoken => by cases spoken) (counted position (fault?_eq_some.mp failed.symm))
  · exact Field.animation.highest_overruns stored asText_timely
      (fun text _ spoken => by cases spoken) (counted animation (fault?_eq_some.mp failed.symm))
  · exact Field.exitWindow.highest_overruns stored asSpan_timely
      (fun text asked => by cases asked) (counted lasts (fault?_eq_some.mp failed.symm))
  · by_cases collapse : Field.collapseAfter.highest surroundings tree = .error .overrun
    · exact Field.collapseAfter.highest_overruns stored asSpan_timely
        (fun text asked => by cases asked) collapse
    · refine Field.expandAfter.highest_overruns stored asSpan_timely
        (fun text asked => by cases asked) (counted ?_ (fault?_eq_some.mp failed.symm))
      exact fun expand overrun => collapse (counted (ordered expand) overrun)
  · exact Field.queueBound.highest_overruns stored asCount_timely
      (fun text asked => by cases asked) (counted room (fault?_eq_some.mp failed.symm))

end

theorem complaints_overruns (first : (complaints surroundings path).findSome? id = some .overrun) :
    Overruns surroundings path := by
  obtain ⟨complaint, member, rfl⟩ := List.exists_of_findSome?_eq_some first
  rw [complaints] at member
  split at member
  next fault stored =>
      have same : fault = .overrun := by simpa using (List.mem_singleton.mp member).symm
      exact .place (same ▸ stored)
  next tree stored =>
      simp only [List.mem_append] at member
      rcases member with (shape | short) | check
      · exact shape_overruns stored shape
      · exact short_overruns stored short
      · exact check_overruns stored check

/-- What is promised of loading. A configuration is loaded exactly when the document and the
variables make a tree, everything it gives is of its kind, and the values that count pass every
check; these values are what the configuration consists of. The value of a field that counts is that
of the highest layer. When nothing is loaded, a report says what is the first thing wrong. -/
structure Lawful (surroundings : Surroundings) (path : String) : Prop where
  loaded : ∀ configuration, load surroundings path = .ok configuration ↔
    ∃ tree, surroundings.tree path = .ok tree ∧ Fits surroundings tree configuration
  readable : surroundings.tree path = .error .syntaxError ↔
    ∃ text, surroundings.folder.document? path = some text ∧ Toml.read? text = none
  layered : ∀ merged, surroundings.tree path = .ok merged →
    ∃ document, surroundings.bare.tree path = .ok document ∧
      ∀ {α : Type} (field : Field α),
        field.Merges (ownVariables surroundings.environment) document →
        (field.layers surroundings document).findSome? id =
          some (field.highest surroundings merged)
  reported : ∀ fault, load surroundings path = .error fault →
    fault ≠ .overrun ∧ (complaints surroundings path).findSome? id = some fault

/-- Loading is lawful exactly when the first thing that is wrong, if any, is not that something
overruns. And if it is, no configuration is loaded and nothing is reported; a span of time that is
given, or the way to a place in the tree, overruns then. -/
theorem load_exact (surroundings : Surroundings) (path : String) :
    (Lawful surroundings path ↔ (complaints surroundings path).findSome? id ≠ some .overrun) ∧
    ((complaints surroundings path).findSome? id = some .overrun →
      load surroundings path = .error .overrun ∧ Overruns surroundings path) := by
  have reports (fault : ConfigurationFault) : load surroundings path = .error fault ↔
      (complaints surroundings path).findSome? id = some fault := by
    rw [← fault?_load, fault?_eq_some]
  refine ⟨⟨?_, ?_⟩, fun first => ⟨(reports _).mpr first, complaints_overruns first⟩⟩
  · intro lawful first
    exact (lawful.reported _ ((reports _).mpr first)).1 rfl
  · intro settled
    refine ⟨fun _ => load_ok_iff, Surroundings.tree_syntaxError, ?_, ?_⟩
    · intro merged stored
      obtain ⟨document, alone, laid⟩ := Surroundings.tree_layers stored
      exact ⟨document, alone, fun field merges => field.highest_layers laid merges⟩
    · intro fault failed
      refine ⟨?_, (reports fault).mp failed⟩
      rintro rfl
      exact settled ((reports _).mp failed)

/-- A variable gives the position a name that names nothing, and its short variable another one. -/
def mixed : Surroundings where
  environment := [("NOTIX__TOASTS__POSITION", "nowhere"), ("NOTIX_POSITION", " top-left ")]

theorem document?_nowhere (path : String) : ({} : Folder).document? path = none := by
  have absent (path : String) : ({} : Folder).text? path = none := by
    rw [Folder.text?]
    cases ({} : Folder).resolve? path <;> rfl
  rw [Folder.document?, absent]
  cases Folder.extended? path with
  | none => rfl
  | some extended => exact absent extended

theorem mixed_variables : ownVariables mixed.environment =
    [⟨[.member "toasts", .member "position"], .written "nowhere"⟩] := by
  have lowered : Text.lower "NOTIX__TOASTS__POSITION" = "notix__toasts__position" := by
    decide +kernel
  have ours : "notix__toasts__position".startsWith "notix__" = true := by decide +kernel
  have rest : String.ofList ("notix__toasts__position".toList.drop 7) = "toasts__position" := by
    decide +kernel
  -- `splitOn` goes by well-founded recursion, so it is unfolded letter by letter.
  have parts : "toasts__position".splitOn "__" = ["toasts", "position"] := by
    rw [String.splitOn, if_neg (by decide)]
    iterate 17 (rw [String.splitOnAux]; simp +decide only [↓reduceIte])
  have spelled : variablePath? "NOTIX__TOASTS__POSITION" = some "toasts.position" := by
    simp only [variablePath?, lowered, ours, rest, parts, if_true]
    decide +kernel
  have steps : Configuration.path "toasts.position" = [.member "toasts", .member "position"] := by
    decide +kernel
  have other : variablePath? "NOTIX_POSITION" = none := by decide +kernel
  have value : variableValue "nowhere" = .written "nowhere" := rfl
  simp [ownVariables, mixed, spelled, other, steps, value]

theorem mixed_lawful : Lawful mixed "notix.toml" ∧
    load mixed "notix.toml" = .ok { position := .topLeft } := by
  have tree : mixed.tree "notix.toml" =
      .ok (.table [("toasts", .table [("position", .written "nowhere")])]) := by
    refine Surroundings.tree_ok_iff.mpr ⟨[], .table [], ?_, rfl, ?_⟩
    · rw [Surroundings.members?]
      simp [mixed, document?_nowhere]
    · rw [mixed_variables]
      rfl
  have loaded : load mixed "notix.toml" = .ok { position := .topLeft } := by
    rw [load, tree]
    rfl
  refine ⟨(load_exact mixed "notix.toml").1.mpr ?_, loaded⟩
  rw [← fault?_load, loaded]
  exact fun failed => by cases failed

/-- The short variable gives a span of time that is just too long to be held. -/
def hasty : Surroundings where
  environment := [("NOTIX_DURATION", "18446744073709551615s 1000000000ns")]

theorem overrun_unreported : load hasty "notix.toml" = .error .overrun ∧
    ¬ Lawful hasty "notix.toml" := by
  have tree : hasty.tree "notix.toml" = .ok (.table []) := by
    refine Surroundings.tree_ok_iff.mpr ⟨[], .table [], ?_, rfl, ?_⟩
    · rw [Surroundings.members?]
      simp [hasty, document?_nowhere]
    · have other : variablePath? "NOTIX_DURATION" = none := by decide +kernel
      simp [ownVariables, hasty, other, Tree.withAll?]
  have failed : load hasty "notix.toml" = .error .overrun := by
    rw [load, tree, ← fault?_eq_some]
    decide +kernel
  exact ⟨failed, fun lawful => (lawful.reported _ failed).1 rfl⟩

end Configuration

end Toasts
