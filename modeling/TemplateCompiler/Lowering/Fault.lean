import TemplateCompiler.Diagnostic
import TemplateCompiler.Lowering.Directive
import TemplateCompiler.Template.Lines

namespace TemplateCompiler

/-- Why a node cannot be lowered. -/
inductive Fault where
  | unknownDirective (name : String)
  | missingExpression (directive : Directive)
  | emptyReference
  | assignmentInCondition (directive : Directive) (expression : String)
  | elseIfOutsideConditional
  | elseOutsideConditional
  | strayEnd
  | malformedLoop (expression : String)
  | malformedAssignment (expression : String)
  deriving DecidableEq, Repr

/-- A node that cannot be lowered. -/
structure Failure where
  /-- Where the node begins. -/
  position : Nat
  fault : Fault
  deriving DecidableEq, Repr

/-- Why a template cannot be compiled. -/
inductive Rejection where
  /-- A node cannot be lowered. -/
  | faulty (failure : Failure)
  /-- The template ends inside a block; this is the innermost one. -/
  | unclosed (block : OpenBlock)
  deriving DecidableEq, Repr

namespace Fault

def stage : Fault → Stage
  | unknownDirective _ | missingExpression _ | emptyReference => .tree
  | elseIfOutsideConditional | elseOutsideConditional | strayEnd => .blocks
  | assignmentInCondition _ _ | malformedLoop _ | malformedAssignment _ => .expression

def message : Fault → String
  | unknownDirective name => "Unknown directive '#" ++ name ++ "'"
  | missingExpression directive => "#" ++ directive.name ++ " is missing its expression"
  | emptyReference => "Variable reference has no expression"
  | assignmentInCondition directive _ =>
    "assignment not allowed in " ++ directive.name ++ " expression"
  | elseIfOutsideConditional => "elseif without if"
  | elseOutsideConditional => "else without if"
  | strayEnd => "end without matching if/foreach"
  | malformedLoop _ => "malformed foreach expression"
  | malformedAssignment _ => "malformed set expression"

def details : Fault → Details
  | unknownDirective _ | missingExpression _ | emptyReference => {}
  | assignmentInCondition directive expression =>
    { directive := some directive.name
      expression := some expression
      suggestion := some "Use == or === to compare values"
      replacement := some "==" }
  | elseIfOutsideConditional => { directive := some Directive.elseIf.name }
  | elseOutsideConditional => { directive := some Directive.orElse.name }
  | strayEnd =>
    { directive := some Directive.endBlock.name
      suggestion := some "Remove the #end or open a block before it" }
  | malformedLoop expression =>
    { directive := some Directive.forEach.name
      expression := some expression
      suggestion := some "Use the form \x60item in collection\x60" }
  | malformedAssignment expression =>
    { directive := some Directive.assign.name
      expression := some expression
      suggestion := some "Use the form \x60target = value\x60" }

end Fault

/-- The report of a rejection. A faulty node is reported on its own line, an unclosed block at the
end of the input with the line on which it was opened. -/
def Rejection.diagnostic (lines : LineLookup) : Rejection → Diagnostic
  | faulty ⟨position, fault⟩ =>
    { stage := fault.stage
      message := fault.message
      location := .line position (lines position)
      details := fault.details }
  | unclosed block =>
    { stage := .blocks
      message := "Unclosed " ++ block.kind.opener.name ++ " block, expected a matching end"
      location := .endOfInput
      details :=
        { directive := some block.kind.opener.name
          suggestion := some "Add #end to close the block"
          openedOnLine := some (lines block.position).repr } }

end TemplateCompiler
