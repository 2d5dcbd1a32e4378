import Toasts.Proofs.Layers

/-!
Fields of a configuration. The value of a field that counts is that of its short variable, or the
one that the tree gives, or its standard value. A configuration is loaded exactly when everything
that the tree gives is of its kind and the values that count pass every check, and it consists of
these values; otherwise what is reported is the first thing that is wrong, in the order in which it
is looked at.
-/

namespace Toasts

def fault? {ε α : Type} : Except ε α → Option ε
  | .ok _ => none
  | .error fault => some fault

namespace Configuration

structure Field (α : Type) where
  part : String
  /-- The fields of its section, in their order. -/
  names : List String
  name : String
  standard : α
  ofTree : Tree → Except ConfigurationFault α
  /-- The short variable that sets it, if there is one. -/
  short : Option String := none
  ofText : String → Except ConfigurationFault α := fun _ => .error .shape

def toastsNames : List String := ["position", "duration", "exit_duration", "animation"]

def autopilotNames : List String := ["enabled", "expand_after", "collapse_after"]

def rendererNames : List String := ["queue_bound"]

namespace Field

def position : Field String where
  part := "toasts"
  names := toastsNames
  name := "position"
  standard := "top-right"
  ofTree := Tree.asText
  short := some "NOTIX_POSITION"
  ofText := .ok

def lifespan : Field Lifespan where
  part := "toasts"
  names := toastsNames
  name := "duration"
  standard := .finite (.ofMillis 6000)
  ofTree := Tree.asLifespan
  short := some "NOTIX_DURATION"
  ofText text := match Lifespan.parse text with
    | .ok lifespan => .ok lifespan
    | .error ⟨_, .overrun⟩ => .error .overrun
    | .error fault => .error (.invalid "NOTIX_DURATION" fault.message)

def exitWindow : Field Span where
  part := "toasts"
  names := toastsNames
  name := "exit_duration"
  standard := .ofMillis 400
  ofTree := Tree.asSpan

def animation : Field String where
  part := "toasts"
  names := toastsNames
  name := "animation"
  standard := "slide"
  ofTree := Tree.asText
  short := some "NOTIX_ANIMATION"
  ofText := .ok

def enabled : Field Bool where
  part := "autopilot"
  names := autopilotNames
  name := "enabled"
  standard := true
  ofTree := Tree.asFlag
  short := some "NOTIX_AUTOPILOT"
  ofText
    | "true" => .ok true
    | "false" => .ok false
    | _ => .error
        (.invalid "NOTIX_AUTOPILOT" "provided string was not \x60true\x60 or \x60false\x60")

def expandAfter : Field Span where
  part := "autopilot"
  names := autopilotNames
  name := "expand_after"
  standard := .ofMillis 150
  ofTree := Tree.asSpan

def collapseAfter : Field Span where
  part := "autopilot"
  names := autopilotNames
  name := "collapse_after"
  standard := .ofMillis 4000
  ofTree := Tree.asSpan

def queueBound : Field Nat where
  part := "renderer"
  names := rendererNames
  name := "queue_bound"
  standard := 32
  ofTree := Tree.asCount

variable {α : Type} (field : Field α) (surroundings : Surroundings) (tree : Tree)

def given? : Option Tree :=
  match sectionOf field.names (tree.get? field.part) with
  | .ok fields => fields field.name
  | .error _ => none

def lower : Except ConfigurationFault α :=
  match field.given? tree with
  | some value => field.ofTree value
  | none => .ok field.standard

def short? : Option String := field.short.bind surroundings.override?

def highest : Except ConfigurationFault α :=
  match field.short? surroundings with
  | some text => field.ofText text
  | none => field.lower tree

end Field

/-- What may be wrong with the kinds of the fields that a tree gives, in the order in which it is
looked at. -/
def shapeComplaints (tree : Tree) : List (Option ConfigurationFault) :=
  [fault? (sectionOf toastsNames (tree.get? "toasts")), fault? (Field.position.lower tree),
    fault? (Field.lifespan.lower tree), fault? (Field.exitWindow.lower tree),
    fault? (Field.animation.lower tree),
    fault? (sectionOf autopilotNames (tree.get? "autopilot")), fault? (Field.enabled.lower tree),
    fault? (Field.expandAfter.lower tree), fault? (Field.collapseAfter.lower tree),
    fault? (sectionOf rendererNames (tree.get? "renderer")), fault? (Field.queueBound.lower tree)]

def positionNamed (text : String) : Except ConfigurationFault Position :=
  (Position.parse text).mapError fun unknown => .invalid "toasts.position" unknown.message

def animationNamed (text : String) : Except ConfigurationFault Animation :=
  (Animation.parse text).mapError fun unknown => .invalid "toasts.animation" unknown.message

def lasting (exitWindow : Span) : Except ConfigurationFault Unit :=
  if exitWindow.isZero then
    .error (.invalid "toasts.exit_duration" "exit animation window must be greater than zero")
  else .ok ()

def inOrder (expand collapse : Span) : Except ConfigurationFault Unit :=
  if collapse.nanos < expand.nanos then
    .error (.invalid "autopilot.collapse_after"
      s!"collapse ({collapse.render}) must not come before expand ({expand.render})")
  else .ok ()

def roomy (bound : Nat) : Except ConfigurationFault Unit :=
  if bound = 0 then .error (.invalid "renderer.queue_bound" "queue bound must be greater than zero")
  else .ok ()

def shortComplaints (surroundings : Surroundings) (tree : Tree) :
    List (Option ConfigurationFault) :=
  [fault? (Field.lifespan.highest surroundings tree),
    fault? (Field.enabled.highest surroundings tree)]

def checkComplaints (surroundings : Surroundings) (tree : Tree) :
    List (Option ConfigurationFault) :=
  [fault? (Field.position.highest surroundings tree >>= positionNamed),
    fault? (Field.animation.highest surroundings tree >>= animationNamed),
    fault? (Field.exitWindow.highest surroundings tree >>= lasting),
    fault? (Field.expandAfter.highest surroundings tree >>= fun expand =>
      Field.collapseAfter.highest surroundings tree >>= inOrder expand),
    fault? (Field.queueBound.highest surroundings tree >>= roomy)]

/-- What may be wrong on the way to a configuration, in the order in which it is looked at. -/
def complaints (surroundings : Surroundings) (path : String) : List (Option ConfigurationFault) :=
  match surroundings.tree path with
  | .error fault => [some fault]
  | .ok tree =>
      shapeComplaints tree ++ shortComplaints surroundings tree ++ checkComplaints surroundings tree

/-- A configuration consists of the values that count, and these pass every check. -/
structure Fits (surroundings : Surroundings) (tree : Tree) (configuration : Configuration) :
    Prop where
  shapes : ∀ complaint ∈ shapeComplaints tree, complaint = none
  position : ∃ text, Field.position.highest surroundings tree = .ok text ∧
    Position.parse text = .ok configuration.position
  lifespan : Field.lifespan.highest surroundings tree = .ok configuration.settings.lifespan
  exitWindow : Field.exitWindow.highest surroundings tree = .ok configuration.settings.exitWindow
  animation : ∃ text, Field.animation.highest surroundings tree = .ok text ∧
    Animation.parse text = .ok configuration.settings.animation
  enabled : Field.enabled.highest surroundings tree = .ok configuration.settings.autopilot.enabled
  expandAfter : Field.expandAfter.highest surroundings tree =
    .ok configuration.settings.autopilot.expandAfter
  collapseAfter : Field.collapseAfter.highest surroundings tree =
    .ok configuration.settings.autopilot.collapseAfter
  queueBound : Field.queueBound.highest surroundings tree = .ok configuration.queueCapacity
  lasting : configuration.settings.exitWindow.isZero = false
  inOrder : configuration.settings.autopilot.expandAfter.nanos ≤
    configuration.settings.autopilot.collapseAfter.nanos
  roomy : configuration.queueCapacity ≠ 0

structure Draft.Reads (draft : Draft) (tree : Tree) : Prop where
  position : Field.position.lower tree = .ok draft.position
  lifespan : Field.lifespan.lower tree = .ok draft.lifespan
  exitWindow : Field.exitWindow.lower tree = .ok draft.exitWindow
  animation : Field.animation.lower tree = .ok draft.animation
  enabled : Field.enabled.lower tree = .ok draft.autopilot.enabled
  expandAfter : Field.expandAfter.lower tree = .ok draft.autopilot.expandAfter
  collapseAfter : Field.collapseAfter.lower tree = .ok draft.autopilot.collapseAfter
  queueBound : Field.queueBound.lower tree = .ok draft.queueBound

structure Draft.Counts (draft : Draft) (surroundings : Surroundings) (tree : Tree) : Prop where
  position : Field.position.highest surroundings tree = .ok draft.position
  lifespan : Field.lifespan.highest surroundings tree = .ok draft.lifespan
  exitWindow : Field.exitWindow.highest surroundings tree = .ok draft.exitWindow
  animation : Field.animation.highest surroundings tree = .ok draft.animation
  enabled : Field.enabled.highest surroundings tree = .ok draft.autopilot.enabled
  expandAfter : Field.expandAfter.highest surroundings tree = .ok draft.autopilot.expandAfter
  collapseAfter : Field.collapseAfter.highest surroundings tree = .ok draft.autopilot.collapseAfter
  queueBound : Field.queueBound.highest surroundings tree = .ok draft.queueBound

section

variable {ε α β : Type} {outcome : Except ε α} {next : α → Except ε β} {rest : List (Option ε)}

theorem ok_bind (value : α) (next : α → Except ε β) : (.ok value >>= next) = next value := rfl

theorem fault?_bind
    (later : ∀ value, outcome = .ok value → fault? (next value) = rest.findSome? id) :
    fault? (outcome >>= next) = (fault? outcome :: rest).findSome? id := by
  cases outcome with
  | error fault => rfl
  | ok value => exact later value rfl

theorem bind_congr_ok {outcome' : Except ε α} {next' : α → Except ε β}
    (first : outcome = outcome') (later : ∀ value, outcome = .ok value → next value = next' value) :
    outcome >>= next = outcome' >>= next' := by
  subst first
  cases outcome with
  | error fault => rfl
  | ok value => exact later value rfl

theorem mapError_ok {ε' : Type} {worded : ε → ε'} {value : α} :
    outcome.mapError worded = .ok value ↔ outcome = .ok value := by
  constructor
  · intro made
    cases outcome with
    | error fault => cases made
    | ok other => exact congrArg Except.ok (Except.ok.inj made)
  · rintro rfl
    rfl

theorem bind_ok {result : β} (made : (outcome >>= next) = .ok result) :
    ∃ value, outcome = .ok value ∧ next value = .ok result := by
  cases outcome with
  | error fault => cases made
  | ok value => exact ⟨value, rfl, made⟩

end

variable {surroundings : Surroundings} {tree : Tree} {draft : Draft} {path : String}

theorem Field.lower_of_section {α : Type} (field : Field α) {fields : Section}
    (opened : sectionOf field.names (tree.get? field.part) = .ok fields) :
    fields.field field.name field.standard field.ofTree = field.lower tree := by
  have given : field.given? tree = fields field.name := by rw [Field.given?, opened]
  cases value : fields field.name with
  | none => simp [Field.lower, given, Section.field, value]
  | some inner => simp [Field.lower, given, Section.field, value]

theorem lasting_ok {exitWindow : Span} :
    lasting exitWindow = .ok () ↔ exitWindow.isZero = false := by
  simp [lasting]

theorem inOrder_ok {expand collapse : Span} :
    inOrder expand collapse = .ok () ↔ expand.nanos ≤ collapse.nanos := by
  simp [inOrder]

theorem roomy_ok {bound : Nat} : roomy bound = .ok () ↔ bound ≠ 0 := by
  simp [roomy]

theorem Draft.ofTree_eq (tree : Tree) : Draft.ofTree tree = do
    let _ ← sectionOf toastsNames (tree.get? "toasts")
    let position ← Field.position.lower tree
    let lifespan ← Field.lifespan.lower tree
    let exitWindow ← Field.exitWindow.lower tree
    let animation ← Field.animation.lower tree
    let _ ← sectionOf autopilotNames (tree.get? "autopilot")
    let enabled ← Field.enabled.lower tree
    let expandAfter ← Field.expandAfter.lower tree
    let collapseAfter ← Field.collapseAfter.lower tree
    let _ ← sectionOf rendererNames (tree.get? "renderer")
    let queueBound ← Field.queueBound.lower tree
    return { position, lifespan, exitWindow, animation, queueBound
             autopilot := { enabled, expandAfter, collapseAfter } } := by
  rw [Draft.ofTree]
  -- A field is read from its section once this is opened; `lower` opens it again, to the same end.
  refine bind_congr_ok rfl fun toasts opened => ?_
  refine bind_congr_ok (Field.position.lower_of_section opened) fun position _ => ?_
  refine bind_congr_ok (Field.lifespan.lower_of_section opened) fun lifespan _ => ?_
  refine bind_congr_ok (Field.exitWindow.lower_of_section opened) fun exitWindow _ => ?_
  refine bind_congr_ok (Field.animation.lower_of_section opened) fun animation _ => ?_
  refine bind_congr_ok rfl fun autopilot opened => ?_
  refine bind_congr_ok (Field.enabled.lower_of_section opened) fun enabled _ => ?_
  refine bind_congr_ok (Field.expandAfter.lower_of_section opened) fun expandAfter _ => ?_
  refine bind_congr_ok (Field.collapseAfter.lower_of_section opened) fun collapseAfter _ => ?_
  refine bind_congr_ok rfl fun renderer opened => ?_
  exact bind_congr_ok (Field.queueBound.lower_of_section opened) fun queueBound _ => rfl

theorem Draft.ofTree_reads (made : Draft.ofTree tree = .ok draft) : draft.Reads tree := by
  rw [Draft.ofTree_eq] at made
  obtain ⟨_, _, made⟩ := bind_ok made
  obtain ⟨position, readPosition, made⟩ := bind_ok made
  obtain ⟨lifespan, readLifespan, made⟩ := bind_ok made
  obtain ⟨exitWindow, readExitWindow, made⟩ := bind_ok made
  obtain ⟨animation, readAnimation, made⟩ := bind_ok made
  obtain ⟨_, _, made⟩ := bind_ok made
  obtain ⟨enabled, readEnabled, made⟩ := bind_ok made
  obtain ⟨expandAfter, readExpandAfter, made⟩ := bind_ok made
  obtain ⟨collapseAfter, readCollapseAfter, made⟩ := bind_ok made
  obtain ⟨_, _, made⟩ := bind_ok made
  obtain ⟨queueBound, readQueueBound, made⟩ := bind_ok made
  obtain rfl := Except.ok.inj made
  exact ⟨readPosition, readLifespan, readExitWindow, readAnimation, readEnabled, readExpandAfter,
    readCollapseAfter, readQueueBound⟩

theorem fault?_ofTree (tree : Tree) :
    fault? (Draft.ofTree tree) = (shapeComplaints tree).findSome? id := by
  rw [Draft.ofTree_eq]
  iterate 11 refine fault?_bind fun _ _ => ?_
  rfl

theorem Draft.checked_eq (draft : Draft) : draft.checked = do
    let position ← positionNamed draft.position
    let animation ← animationNamed draft.animation
    lasting draft.exitWindow
    inOrder draft.autopilot.expandAfter draft.autopilot.collapseAfter
    roomy draft.queueBound
    return {
      position
      settings := {
        lifespan := draft.lifespan, exitWindow := draft.exitWindow, animation
        autopilot := draft.autopilot }
      queueCapacity := draft.queueBound } := by
  rw [Draft.checked]
  refine bind_congr_ok rfl fun position _ => bind_congr_ok rfl fun animation _ => ?_
  simp only [lasting, inOrder, roomy]
  split
  · rfl
  · split
    · rfl
    · split <;> rfl

theorem Field.highest_text {field : Field String} {text : String} (asIs : field.ofText = .ok)
    (lower : field.lower tree = .ok text) (surroundings : Surroundings) :
    field.highest surroundings tree = .ok ((field.short? surroundings).getD text) := by
  rw [Field.highest]
  cases field.short? surroundings with
  | none => exact lower
  | some short => rw [asIs, Option.getD_some]

namespace Draft.Reads

variable (reads : draft.Reads tree) (surroundings : Surroundings)

include reads

theorem lifespan_highest :
    Field.lifespan.highest surroundings tree = draft.overriddenLifespan surroundings := by
  have short : Field.lifespan.short? surroundings = surroundings.override? "NOTIX_DURATION" := rfl
  rw [Field.highest, short, overriddenLifespan]
  cases surroundings.override? "NOTIX_DURATION" with
  | none => exact reads.lifespan
  | some text =>
      cases parsed : Lifespan.parse text with
      | ok lifespan => simp [Field.lifespan, parsed]
      | error fault =>
          obtain ⟨written, cause⟩ := fault
          cases cause <;> simp [Field.lifespan, parsed]

theorem enabled_highest :
    Field.enabled.highest surroundings tree = draft.overriddenAutopilot surroundings := by
  have short : Field.enabled.short? surroundings = surroundings.override? "NOTIX_AUTOPILOT" := rfl
  rw [Field.highest, short, overriddenAutopilot]
  cases surroundings.override? "NOTIX_AUTOPILOT" with
  | none => exact reads.enabled
  | some text =>
      dsimp only [Field.enabled]
      split <;> simp_all

theorem fault?_overridden : fault? (draft.overridden surroundings) =
    (shortComplaints surroundings tree).findSome? id := by
  rw [overridden, ← reads.lifespan_highest, ← reads.enabled_highest]
  exact fault?_bind fun lifespan _ => fault?_bind fun enabled _ => rfl

theorem counts {top : Draft} (made : draft.overridden surroundings = .ok top) :
    top.Counts surroundings tree := by
  rw [overridden, ← reads.lifespan_highest, ← reads.enabled_highest] at made
  obtain ⟨lifespan, readLifespan, made⟩ := bind_ok made
  obtain ⟨enabled, readEnabled, made⟩ := bind_ok made
  obtain rfl := Except.ok.inj made
  exact ⟨Field.highest_text rfl reads.position surroundings, readLifespan, reads.exitWindow,
    Field.highest_text rfl reads.animation surroundings, readEnabled, reads.expandAfter,
    reads.collapseAfter, reads.queueBound⟩

end Draft.Reads

namespace Draft.Counts

variable (counts : draft.Counts surroundings tree)

include counts

theorem fault?_checked :
    fault? draft.checked = (checkComplaints surroundings tree).findSome? id := by
  rw [checked_eq, checkComplaints, counts.position, counts.animation, counts.exitWindow,
    counts.expandAfter, counts.collapseAfter, counts.queueBound]
  simp only [ok_bind]
  iterate 5 refine fault?_bind fun _ _ => ?_
  rfl

theorem fits {configuration : Configuration}
    (shapes : ∀ complaint ∈ shapeComplaints tree, complaint = none)
    (made : draft.checked = .ok configuration) : Fits surroundings tree configuration := by
  rw [checked_eq] at made
  obtain ⟨position, named, made⟩ := bind_ok made
  obtain ⟨animation, moves, made⟩ := bind_ok made
  obtain ⟨_, lasts, made⟩ := bind_ok made
  obtain ⟨_, ordered, made⟩ := bind_ok made
  obtain ⟨_, room, made⟩ := bind_ok made
  obtain rfl := Except.ok.inj made
  exact ⟨shapes, ⟨_, counts.position, mapError_ok.mp named⟩, counts.lifespan, counts.exitWindow,
    ⟨_, counts.animation, mapError_ok.mp moves⟩, counts.enabled, counts.expandAfter,
    counts.collapseAfter, counts.queueBound, lasting_ok.mp lasts, inOrder_ok.mp ordered,
    roomy_ok.mp room⟩

end Draft.Counts

/-- The first thing that is wrong is what is reported. -/
theorem fault?_load (surroundings : Surroundings) (path : String) :
    fault? (load surroundings path) = (complaints surroundings path).findSome? id := by
  rw [load, complaints]
  cases surroundings.tree path with
  | error fault => rfl
  | ok tree =>
      have shapes := fault?_ofTree tree
      rw [ok_bind, List.findSome?_append, List.findSome?_append, ← shapes]
      cases read : Draft.ofTree tree with
      | error fault => rfl
      | ok draft =>
          have reads := Draft.ofTree_reads read
          rw [ok_bind, ← reads.fault?_overridden surroundings]
          cases overridden : draft.overridden surroundings with
          | error fault => rfl
          | ok top =>
              rw [ok_bind, (reads.counts surroundings overridden).fault?_checked]
              rfl

theorem fault?_eq_none {outcome : Except ConfigurationFault Configuration} :
    fault? outcome = none ↔ ∃ configuration, outcome = .ok configuration := by
  cases outcome <;> simp [fault?]

theorem fault?_eq_some {α : Type} {outcome : Except ConfigurationFault α}
    {fault : ConfigurationFault} : fault? outcome = some fault ↔ outcome = .error fault := by
  cases outcome <;> simp [fault?]

theorem load_fits {configuration : Configuration}
    (loaded : load surroundings path = .ok configuration) :
    ∃ tree, surroundings.tree path = .ok tree ∧ Fits surroundings tree configuration := by
  obtain ⟨tree, stored, loaded⟩ := bind_ok loaded
  obtain ⟨draft, read, loaded⟩ := bind_ok loaded
  obtain ⟨top, overridden, checked⟩ := bind_ok loaded
  have shapes := fault?_ofTree tree
  rw [read] at shapes
  have counts := (Draft.ofTree_reads read).counts surroundings overridden
  exact ⟨tree, stored, counts.fits (List.findSome?_eq_none_iff.mp shapes.symm) checked⟩

theorem Fits.unique {configuration other : Configuration}
    (fits : Fits surroundings tree configuration) (others : Fits surroundings tree other) :
    configuration = other := by
  obtain ⟨text, counted, named⟩ := fits.position
  obtain ⟨text', counted', named'⟩ := others.position
  obtain rfl := Except.ok.inj (counted.symm.trans counted')
  obtain ⟨word, chosen, moves⟩ := fits.animation
  obtain ⟨word', chosen', moves'⟩ := others.animation
  obtain rfl := Except.ok.inj (chosen.symm.trans chosen')
  have position := Except.ok.inj (named.symm.trans named')
  have animation := Except.ok.inj (moves.symm.trans moves')
  have lifespan := Except.ok.inj (fits.lifespan.symm.trans others.lifespan)
  have exitWindow := Except.ok.inj (fits.exitWindow.symm.trans others.exitWindow)
  have enabled := Except.ok.inj (fits.enabled.symm.trans others.enabled)
  have expandAfter := Except.ok.inj (fits.expandAfter.symm.trans others.expandAfter)
  have collapseAfter := Except.ok.inj (fits.collapseAfter.symm.trans others.collapseAfter)
  have queueBound := Except.ok.inj (fits.queueBound.symm.trans others.queueBound)
  obtain ⟨_, ⟨_, _, _, ⟨_, _, _⟩⟩, _⟩ := configuration
  obtain ⟨_, ⟨_, _, _, ⟨_, _, _⟩⟩, _⟩ := other
  congr

theorem Fits.uncomplained {configuration : Configuration}
    (fits : Fits surroundings tree configuration) : ∀ complaint ∈ shapeComplaints tree ++
      shortComplaints surroundings tree ++ checkComplaints surroundings tree, complaint = none := by
  obtain ⟨position, counted, named⟩ := fits.position
  obtain ⟨animation, chosen, moves⟩ := fits.animation
  have named : positionNamed position = .ok _ := mapError_ok.mpr named
  have moves : animationNamed animation = .ok _ := mapError_ok.mpr moves
  have lasts := lasting_ok.mpr fits.lasting
  have ordered := inOrder_ok.mpr fits.inOrder
  have room := roomy_ok.mpr fits.roomy
  have short : ∀ complaint ∈ shortComplaints surroundings tree, complaint = none := by
    simp [shortComplaints, fits.lifespan, fits.enabled, fault?]
  have checks : ∀ complaint ∈ checkComplaints surroundings tree, complaint = none := by
    simp [checkComplaints, counted, chosen, fits.exitWindow, fits.expandAfter, fits.collapseAfter,
      fits.queueBound, ok_bind, named, moves, lasts, ordered, room, fault?]
  intro complaint member
  simp only [List.mem_append] at member
  rcases member with (shape | text) | check
  · exact fits.shapes complaint shape
  · exact short complaint text
  · exact checks complaint check

theorem load_ok_iff {configuration : Configuration} : load surroundings path = .ok configuration ↔
    ∃ tree, surroundings.tree path = .ok tree ∧ Fits surroundings tree configuration := by
  constructor
  · exact load_fits
  · rintro ⟨tree, stored, fits⟩
    have silent : fault? (load surroundings path) = none := by
      rw [fault?_load, complaints, stored]
      exact List.findSome?_eq_none_iff.mpr fits.uncomplained
    obtain ⟨other, loaded⟩ := fault?_eq_none.mp silent
    obtain ⟨tree', stored', others⟩ := load_fits loaded
    obtain rfl := Except.ok.inj (stored.symm.trans stored')
    rw [loaded, others.unique fits]

end Configuration

end Toasts
