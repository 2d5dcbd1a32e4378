import Toasts.Text.Blank

/-!
The small vocabularies of the engine: where a toast sits, what kind it is, how it moves and how far
its life has come. Each word has one written name; people may also write some words in other ways,
with blanks around them and in any case.
-/

namespace Toasts

/-- A text that names nothing: the vocabulary it was looked up in, and the text as it was read. -/
structure UnknownName where
  vocabulary : String
  text : String
  deriving DecidableEq

def UnknownName.message (unknown : UnknownName) : String :=
  s!"unknown {unknown.vocabulary}: {unknown.text}"

inductive Position where
  | topLeft
  | topCenter
  | topRight
  | bottomLeft
  | bottomCenter
  | bottomRight
  deriving DecidableEq

namespace Position

instance : Inhabited Position := ⟨.topRight⟩

def all : List Position :=
  [.topLeft, .topCenter, .topRight, .bottomLeft, .bottomCenter, .bottomRight]

def name : Position → String
  | .topLeft => "top-left"
  | .topCenter => "top-center"
  | .topRight => "top-right"
  | .bottomLeft => "bottom-left"
  | .bottomCenter => "bottom-center"
  | .bottomRight => "bottom-right"

def isTop : Position → Bool
  | .topLeft | .topCenter | .topRight => true
  | _ => false

def ofName? (name : String) : Option Position :=
  all.find? (·.name == name)

/-- Read a position. Case and the choice between "-" and "_" do not matter, and the centers may go
by their edge alone. -/
def parse (text : String) : Except UnknownName Position :=
  let written := String.ofList ((Text.lower (Text.trim text)).toList.map fun char =>
    if char = '_' then '-' else char)
  match written with
  | "top" => .ok .topCenter
  | "bottom" => .ok .bottomCenter
  | written => match ofName? written with
    | some position => .ok position
    | none => .error ⟨"position", written⟩

theorem mem_all (position : Position) : position ∈ all := by
  cases position <;> decide

end Position

inductive Kind where
  | success
  | error
  | warning
  | info
  | loading
  | action
  deriving DecidableEq

namespace Kind

instance : Inhabited Kind := ⟨.info⟩

def all : List Kind := [.success, .error, .warning, .info, .loading, .action]

def name : Kind → String
  | .success => "success"
  | .error => "error"
  | .warning => "warning"
  | .info => "info"
  | .loading => "loading"
  | .action => "action"

def ofName? (name : String) : Option Kind :=
  all.find? (·.name == name)

/-- Read a kind; four of them have a second name. -/
def parse (text : String) : Except UnknownName Kind :=
  match Text.lower (Text.trim text) with
  | "ok" => .ok .success
  | "err" => .ok .error
  | "warn" => .ok .warning
  | "information" => .ok .info
  | written => match ofName? written with
    | some kind => .ok kind
    | none => .error ⟨"toast kind", written⟩

end Kind

inductive Animation where
  | slide
  | morph
  | fly
  deriving DecidableEq

namespace Animation

instance : Inhabited Animation := ⟨.slide⟩

def all : List Animation := [.slide, .morph, .fly]

def name : Animation → String
  | .slide => "slide"
  | .morph => "morph"
  | .fly => "fly"

def ofName? (name : String) : Option Animation :=
  all.find? (·.name == name)

def parse (text : String) : Except UnknownName Animation :=
  let written := Text.lower (Text.trim text)
  match ofName? written with
  | some animation => .ok animation
  | none => .error ⟨"animation mode", written⟩

end Animation

/-- How far the life of one toast has come. The order of the stages is the order of life. -/
inductive Lifecycle where
  | entering
  | visible
  | exiting
  | removed
  deriving DecidableEq

namespace Lifecycle

instance : Inhabited Lifecycle := ⟨.entering⟩

def all : List Lifecycle := [.entering, .visible, .exiting, .removed]

def name : Lifecycle → String
  | .entering => "entering"
  | .visible => "visible"
  | .exiting => "exiting"
  | .removed => "removed"

def ofName? (name : String) : Option Lifecycle :=
  all.find? (·.name == name)

def rank : Lifecycle → Nat
  | .entering => 0
  | .visible => 1
  | .exiting => 2
  | .removed => 3

/-- The later stage `next`, or nothing when it would not be a step forward. -/
def advance (stage next : Lifecycle) : Option Lifecycle :=
  if stage.rank < next.rank then some next else none

end Lifecycle

/-- A part of a toast whose looks a caller may override. -/
inductive StyleSlot where
  | toast
  | title
  | description
  | icon
  | actionButton
  | closeButton
  deriving DecidableEq

namespace StyleSlot

def all : List StyleSlot := [.toast, .title, .description, .icon, .actionButton, .closeButton]

def name : StyleSlot → String
  | .toast => "toast"
  | .title => "title"
  | .description => "description"
  | .icon => "icon"
  | .actionButton => "action-button"
  | .closeButton => "close-button"

def ofName? (name : String) : Option StyleSlot :=
  all.find? (·.name == name)

end StyleSlot

end Toasts
