namespace TemplateCompiler

/-- What a node of a template stands for. -/
inductive Kind where
  /-- Text between the template's tags. -/
  | literal
  /-- A piece of an expression that is passed through as written. -/
  | verbatim
  /-- A command such as `if` or `end`; the text is its name. -/
  | directive
  /-- The value of an expression. -/
  | reference
  /-- The value of an expression, empty if it has none. -/
  | quietReference
  /-- A string inside an expression, made of fragments and interpolated nodes. -/
  | string
  /-- Text inside a string. -/
  | fragment
  deriving DecidableEq, Repr

namespace Kind

/-- The number that marks the kind in the interchange format. -/
def tag : Kind → Nat
  | literal => 1
  | verbatim => 2
  | directive => 3
  | reference => 4
  | quietReference => 5
  | string => 6
  | fragment => 7

def ofTag? : Nat → Option Kind
  | 1 => some literal
  | 2 => some verbatim
  | 3 => some directive
  | 4 => some reference
  | 5 => some quietReference
  | 6 => some string
  | 7 => some fragment
  | _ => none

/-- The name under which the kind is shown to users. -/
def name : Kind → String
  | literal => "Literal"
  | verbatim => "DirectiveTag"
  | directive => "Directive"
  | reference => "VariableRef"
  | quietReference => "QuietVariableRef"
  | string => "StringLiteral"
  | fragment => "StringFragment"

/-- The message for a number that marks no kind. -/
def unknownTagMessage (tag : Nat) : String :=
  s!"unknown template node type {tag}"

theorem ofTag?_tag (kind : Kind) : ofTag? kind.tag = some kind := by
  cases kind <;> rfl

theorem ofTag?_eq_some_iff {tag : Nat} {kind : Kind} : ofTag? tag = some kind ↔ tag = kind.tag := by
  constructor
  · intro known
    unfold ofTag? at known
    split at known <;> cases known <;> rfl
  · rintro rfl
    exact ofTag?_tag kind

end Kind

end TemplateCompiler
