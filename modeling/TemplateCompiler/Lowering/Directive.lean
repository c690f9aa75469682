namespace TemplateCompiler

/-- The commands of a template. -/
inductive Directive where
  | ifThen
  | elseIf
  | orElse
  | endBlock
  | forEach
  | stop
  | assign
  deriving DecidableEq, Repr

namespace Directive

def ofName? (name : String) : Option Directive :=
  if name = "if" then some ifThen
  else if name = "elseif" then some elseIf
  else if name = "else" then some orElse
  else if name = "end" then some endBlock
  else if name = "foreach" then some forEach
  else if name = "break" then some stop
  else if name = "set" then some assign
  else none

def name : Directive → String
  | ifThen => "if"
  | elseIf => "elseif"
  | orElse => "else"
  | endBlock => "end"
  | forEach => "foreach"
  | stop => "break"
  | assign => "set"

/-- Whether the directive's children are its expression; the children of the others are not read. -/
def takesExpression : Directive → Bool
  | ifThen | elseIf | forEach | assign => true
  | orElse | endBlock | stop => false

theorem ofName?_name (directive : Directive) : ofName? directive.name = some directive := by
  cases directive <;> decide

end Directive

/-- The kinds of block that `end` closes. -/
inductive BlockKind where
  | conditional
  | loop
  deriving DecidableEq, Repr

/-- The directive that opens a block of the kind. -/
def BlockKind.opener : BlockKind → Directive
  | .conditional => .ifThen
  | .loop => .forEach

/-- A block that has not been closed yet. -/
structure OpenBlock where
  kind : BlockKind
  /-- Where the directive that opened it begins. -/
  position : Nat
  deriving DecidableEq, Repr

end TemplateCompiler
