import TemplateCompiler.Config.Basic
import TemplateCompiler.Lowering.Emission
import TemplateCompiler.Script.Escape
import TemplateCompiler.Script.Navigation
import TemplateCompiler.Template.Kind

namespace TemplateCompiler.Lowering

/-- How a reference treats a value that cannot be had. -/
inductive ReferenceMode where
  /-- As the expression itself does. -/
  | plain
  /-- By an empty text. -/
  | quiet
  /-- By the text of the expression. -/
  | visible
  deriving DecidableEq, Repr

/-- The mode of a reference at `depth` that follows a node of kind `before`. A reference is visible
only in the template's own text: at its start or right after literal text. -/
def referenceMode (config : Config) (depth : Nat) (before : Option Kind) (kind : Kind) :
    ReferenceMode :=
  if kind = .quietReference then .quiet
  else if config.undefinedOutput && depth == 0 && (before == none || before == some .literal) then
    .visible
  else .plain

/-- An expression whose exceptions and missing links give the fallback, an escaped text. -/
def guarded (expression fallback : String) : String :=
  Script.showName ++ "(()=>(" ++ Script.safeNavigation expression ++ "),'" ++ fallback ++ "')"

/-- The code of a reference to an expression, and the emission after it. -/
def referenceCode (mode : ReferenceMode) (depth : Nat) (expression : String) (emission : Emission) :
    String × Emission :=
  let emission := emission.hoistRoot expression
  let (value, emission) :=
    match mode with
    | .plain =>
      if depth = 0 then (Script.textName ++ "(" ++ expression ++ ")", { emission with usesText := true })
      else (expression, emission)
    | .quiet => (guarded expression "", { emission with usesShow := true })
    | .visible =>
      (guarded expression (Script.escapeLiteral ("$" ++ expression)),
        { emission with usesShow := true })
  (if depth = 0 then Script.outputName ++ "+=" ++ value ++ ";" else value, emission)

/-- Lowers a reference whose children have been lowered to `expression`. -/
def lowerReference (mode : ReferenceMode) (depth : Nat) (expression : String) (position : Nat) :
    Lowering String := do
  let expression := Text.trim expression
  if expression.isEmpty then
    fail position .emptyReference
  else
    modifyGet (referenceCode mode depth expression)

end TemplateCompiler.Lowering
