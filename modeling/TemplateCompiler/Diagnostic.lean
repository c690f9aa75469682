namespace TemplateCompiler

/-- Where in the template a problem lies. -/
inductive Location where
  | unknown
  | offset (position : Nat)
  | line (position number : Nat)
  | endOfInput
  deriving DecidableEq, Repr

namespace Location

def line? : Location → Option Nat
  | line _ number => some number
  | _ => none

def offset? : Location → Option Nat
  | offset position => some position
  | line position _ => some position
  | _ => none

def describe : Location → String
  | unknown => "unknown location"
  | offset position => s!"offset {position}"
  | line _ number => s!"line {number}"
  | endOfInput => "EOF"

end Location

/-- The part of the job in which a problem was found. -/
inductive Stage where
  /-- Blocks that are not opened and closed in step. -/
  | blocks
  /-- A directive's expression that has the wrong form. -/
  | expression
  /-- A template tree that makes no sense. -/
  | tree
  /-- The options file. -/
  | config
  deriving DecidableEq, Repr

def Stage.title : Stage → String
  | .blocks => "Structure Error"
  | .expression => "Syntax Error"
  | .tree => "Malformed Template Tree"
  | .config => "Malformed Config"

/-- The kinds of extra detail that a diagnostic can carry. -/
inductive Detail where
  | directive
  | expression
  | openedOnLine
  | suggestion
  | replacement
  deriving DecidableEq, Repr

/-- Extra details for tools that show a diagnostic, at most one text of each kind. -/
structure Details where
  directive : Option String := none
  expression : Option String := none
  openedOnLine : Option String := none
  suggestion : Option String := none
  replacement : Option String := none
  deriving DecidableEq, Repr

namespace Details

def get? (details : Details) : Detail → Option String
  | .directive => details.directive
  | .expression => details.expression
  | .openedOnLine => details.openedOnLine
  | .suggestion => details.suggestion
  | .replacement => details.replacement

def insert (details : Details) (detail : Detail) (text : String) : Details :=
  match detail with
  | .directive => { details with directive := some text }
  | .expression => { details with expression := some text }
  | .openedOnLine => { details with openedOnLine := some text }
  | .suggestion => { details with suggestion := some text }
  | .replacement => { details with replacement := some text }

theorem get?_insert (details : Details) (inserted asked : Detail) (text : String) :
    (details.insert inserted text).get? asked =
      if asked = inserted then some text else details.get? asked := by
  cases inserted <;> cases asked <;> rfl

end Details

/-- A problem as it is reported to the user. -/
structure Diagnostic where
  stage : Stage
  message : String
  location : Location := .unknown
  details : Details := {}
  deriving DecidableEq, Repr

namespace Diagnostic

def line? (diagnostic : Diagnostic) : Option Nat :=
  diagnostic.location.line?

def withLocation (diagnostic : Diagnostic) (location : Location) : Diagnostic :=
  { diagnostic with location := location }

def withDetail (diagnostic : Diagnostic) (detail : Detail) (text : String) : Diagnostic :=
  { diagnostic with details := diagnostic.details.insert detail text }

/-- The diagnostic as one line of text; a suggestion, if there is one, comes last. -/
def describe (diagnostic : Diagnostic) : String :=
  diagnostic.stage.title ++ " (" ++ diagnostic.location.describe ++ "): " ++ diagnostic.message ++
    match diagnostic.details.suggestion with
    | some suggestion => ". " ++ suggestion
    | none => ""

end Diagnostic

end TemplateCompiler
