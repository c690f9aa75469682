import TemplateCompiler.Lowering.Fault
import TemplateCompiler.Script.Name

namespace TemplateCompiler

/-- What lowering has found out so far. -/
structure Emission where
  /-- The open blocks, the innermost first. -/
  blocks : List OpenBlock := []
  /-- The variables to declare, in the order in which they were first read. -/
  hoisted : List String := []
  usesShow : Bool := false
  usesText : Bool := false
  deriving DecidableEq, Repr

namespace Emission

/-- The emission with the variable that an expression reads from. -/
def hoistRoot (emission : Emission) (expression : String) : Emission :=
  match Script.hoistableRoot? expression with
  | none => emission
  | some root =>
    if emission.hoisted.contains root then emission
    else { emission with hoisted := emission.hoisted ++ [root] }

def openBlock (emission : Emission) (kind : BlockKind) (position : Nat) : Emission :=
  { emission with blocks := ⟨kind, position⟩ :: emission.blocks }

def innermost? (emission : Emission) : Option BlockKind :=
  emission.blocks.head?.map OpenBlock.kind

end Emission

/-- Lowering reads and extends an emission, and stops at the first faulty node. A failure keeps
the emission as it was at that node. -/
abbrev Lowering := EStateM Failure Emission

namespace Lowering

def fail {α : Type} (position : Nat) (fault : Fault) : Lowering α :=
  throw ⟨position, fault⟩

end Lowering

end TemplateCompiler
