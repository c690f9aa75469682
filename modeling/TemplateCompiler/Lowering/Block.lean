import TemplateCompiler.Lowering.Assignment
import TemplateCompiler.Lowering.Emission
import TemplateCompiler.Script.Loop
import TemplateCompiler.Script.Program

namespace TemplateCompiler.Lowering

/-- Refuses a condition that assigns. -/
def rejectAssignment (directive : Directive) (expression : String) (position : Nat) :
    Lowering Unit :=
  if assigns expression then fail position (.assignmentInCondition directive expression)
  else pure ()

def lowerIf (expression : String) (position : Nat) : Lowering String := do
  rejectAssignment .ifThen expression position
  modify (·.openBlock .conditional position)
  pure ("if(" ++ expression ++ ")\x7b")

def lowerElseIf (expression : String) (position : Nat) : Lowering String := do
  if (← get).innermost? = some .conditional then
    rejectAssignment .elseIf expression position
    pure ("\x7delse if(" ++ expression ++ ")\x7b")
  else
    fail position .elseIfOutsideConditional

def lowerElse (position : Nat) : Lowering String := do
  if (← get).innermost? = some .conditional then
    pure "\x7delse\x7b"
  else
    fail position .elseOutsideConditional

def closingCode : BlockKind → String
  | .conditional => "\x7d"
  | .loop => Script.closeLoop

def lowerEnd (position : Nat) : Lowering String := do
  let emission ← get
  match emission.blocks with
  | [] => fail position .strayEnd
  | block :: outer =>
    set { emission with blocks := outer }
    pure (closingCode block.kind)

def lowerForEach (expression : String) (position : Nat) : Lowering String := do
  let expression := Text.trim expression
  match loopParts? expression with
  | none => fail position (.malformedLoop expression)
  | some (key, collection) =>
    modify (·.openBlock .loop position)
    pure (Script.openLoop key collection)

/-- Lowers an assignment. Its target is declared as well, since a program may not assign to an
undeclared variable. -/
def lowerAssign (expression : String) (position : Nat) : Lowering String := do
  if isAssignment expression then
    modify (·.hoistRoot expression)
    pure (expression ++ ";")
  else
    fail position (.malformedAssignment expression)

/-- Lowers a directive whose children have been lowered to `expression`, if it takes one. -/
def lowerDirective (directive : Directive) (expression : String) (position : Nat) :
    Lowering String :=
  if directive.takesExpression && Text.isBlank expression then
    fail position (.missingExpression directive)
  else
    match directive with
    | .ifThen => lowerIf expression position
    | .elseIf => lowerElseIf expression position
    | .orElse => lowerElse position
    | .endBlock => lowerEnd position
    | .forEach => lowerForEach expression position
    | .stop => pure Script.returnOutput
    | .assign => lowerAssign expression position

end TemplateCompiler.Lowering
