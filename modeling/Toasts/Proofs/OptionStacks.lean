import Toasts.Options

/-!
Stacks of options. Whatever options can ask for is a field of them, and so is the look of each part.
A layer that sets a field hides what the layers below it say of this field, and of no other. So a
stack of layers says of each field what the last layer says that sets it, and as nothing but the
fields counts, it does not matter how the layers of a stack are grouped.
-/

namespace Toasts.Options

/-- What options can leave open: a field, or the look of one part. -/
inductive Field : Type → Type where
  | id : Field ToastId
  | kind : Field Kind
  | title : Field String
  | description : Field String
  | position : Field Position
  | lifespan : Field Lifespan
  | icon : Field Icon
  | action : Field ActionButton
  | animation : Field Animation
  | anchor : Field Anchor
  | autopilot : Field AutopilotRequest
  | onDismiss : Field Hook
  | onAutoClose : Field Hook
  | style (slot : StyleSlot) : Field String

variable {Value : Type} {first second : Options}

def Field.get : Field Value → Options → Option Value
  | .id, options => options.id
  | .kind, options => options.kind
  | .title, options => options.title
  | .description, options => options.description
  | .position, options => options.position
  | .lifespan, options => options.lifespan
  | .icon, options => options.icon
  | .action, options => options.action
  | .animation, options => options.animation
  | .anchor, options => options.anchor
  | .autopilot, options => options.autopilot
  | .onDismiss, options => options.onDismiss
  | .onAutoClose, options => options.onAutoClose
  | .style slot, options => options.styles.get slot

namespace Field

@[simp] theorem get_empty (field : Field Value) : field.get empty = none := by
  cases field <;> rfl

@[simp] theorem get_merged (field : Field Value) (low top : Options) :
    field.get (low.merged top) = (field.get top).or (field.get low) := by
  cases field <;> exact Option.orElse_eq_or

theorem ext_get
    (same : ∀ {Value : Type} (field : Field Value), field.get first = field.get second) :
    first = second := by
  have styles : first.styles = second.styles := by
    have slots : first.styles.get = second.styles.get := funext fun slot => same (.style slot)
    cases looks : first.styles
    cases others : second.styles
    simpa [looks, others] using slots
  cases first
  cases second
  obtain rfl := styles
  congr
  · exact same .id
  · exact same .kind
  · exact same .title
  · exact same .description
  · exact same .position
  · exact same .lifespan
  · exact same .icon
  · exact same .action
  · exact same .animation
  · exact same .anchor
  · exact same .autopilot
  · exact same .onDismiss
  · exact same .onAutoClose

/-- A field of layers over a base is that of the highest layer that sets it, or that of the base. -/
theorem get_foldl (field : Field Value) (layers : List Options) (base : Options) :
    field.get (layers.foldl merged base) =
      (layers.reverse.findSome? field.get).or (field.get base) := by
  induction layers generalizing base with
  | nil => rfl
  | cons lowest layers ih =>
      rw [List.foldl_cons, ih, get_merged, List.reverse_cons, List.findSome?_append,
        Option.or_assoc, List.findSome?_singleton]

theorem get_stacked (field : Field Value) (layers : List Options) :
    field.get (stacked layers) = layers.reverse.findSome? field.get := by
  rw [stacked, get_foldl, get_empty, Option.or_none]

theorem get_stacked_some (field : Field Value) (layers : List Options) (value : Value) :
    field.get (stacked layers) = some value ↔
      ∃ below layer above, layers = below ++ layer :: above ∧ field.get layer = some value ∧
        ∀ higher ∈ above, field.get higher = none := by
  rw [get_stacked, List.findSome?_eq_some_iff]
  constructor
  · rintro ⟨above, layer, below, split, sets, unset⟩
    refine ⟨below.reverse, layer, above.reverse, ?_, sets, ?_⟩
    · simpa using congrArg List.reverse split
    · simpa using unset
  · rintro ⟨below, layer, above, rfl, sets, unset⟩
    exact ⟨above.reverse, layer, below.reverse, by simp, sets, by simpa using unset⟩

end Field

theorem merged_assoc (low middle top : Options) :
    (low.merged middle).merged top = low.merged (middle.merged top) := by
  apply Field.ext_get
  intro Value field
  simp only [Field.get_merged, Option.or_assoc]

theorem empty_merged (options : Options) : empty.merged options = options := by
  apply Field.ext_get
  intro Value field
  rw [Field.get_merged, Field.get_empty, Option.or_none]

theorem merged_empty (options : Options) : options.merged empty = options := by
  apply Field.ext_get
  intro Value field
  rw [Field.get_merged, Field.get_empty, Option.none_or]

/-- Layers of options form a stack in which the last one wins. Of each field, and of the look of
each part, a stack says what the last layer says that sets it, and nothing if none does. The fields
are all that there is to options, so layers may be grouped in any way, and options that leave
everything open change nothing, as the lowest layer or as the highest. -/
theorem stacked_exact (layers : List Options) :
    (∀ {Value : Type} (field : Field Value),
      (∀ value, field.get (stacked layers) = some value ↔
        ∃ below layer above, layers = below ++ layer :: above ∧ field.get layer = some value ∧
          ∀ higher ∈ above, field.get higher = none) ∧
      (field.get (stacked layers) = none ↔ ∀ layer ∈ layers, field.get layer = none)) ∧
    (∀ first second : Options, first = second ↔
      ∀ {Value : Type} (field : Field Value), field.get first = field.get second) ∧
    (∀ low middle top : Options,
      (low.merged middle).merged top = low.merged (middle.merged top)) ∧
    ∀ options : Options, empty.merged options = options ∧ options.merged empty = options := by
  refine ⟨?_, ?_, merged_assoc, ?_⟩
  · intro Value field
    refine ⟨field.get_stacked_some layers, ?_⟩
    rw [Field.get_stacked]
    simp
  · intro first second
    constructor
    · rintro rfl Value field
      rfl
    · exact Field.ext_get
  · intro options
    exact ⟨empty_merged options, merged_empty options⟩

/-- Looks are stacked part by part: to set one of them leaves the others. -/
example :
    let base : Options := { title := some "base", styles := .set (.set {} .toast "a") .title "b" }
    let upper : Options := { kind := some .error, styles := .set {} .title "c" }
    let stack := stacked [base, upper]
    stack.title = some "base" ∧ stack.styles.entries = [(.toast, "a"), (.title, "c")] :=
  ⟨rfl, rfl⟩

end Toasts.Options
