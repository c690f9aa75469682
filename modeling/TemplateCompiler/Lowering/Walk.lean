import TemplateCompiler.Lowering.Block
import TemplateCompiler.Lowering.Literal
import TemplateCompiler.Lowering.Reference
import TemplateCompiler.Template.Node

namespace TemplateCompiler.Lowering

mutual

/-- Lowers one node that stands between siblings of the given kinds. Depth 0 is the template's own
text, and everything deeper is part of an expression. -/
def lowerNode (config : Config) (depth : Nat) (before after : Option Kind) :
    Node → Lowering String
  | ⟨kind, text, children, position⟩ =>
    match kind with
    | .literal => pure (appendText text)
    | .verbatim => pure text
    | .fragment => pure (fragmentCode before after text)
    | .string => lowerString config depth children
    | .reference | .quietReference => do
      let expression ← lowerChildren config (depth + 1) children
      lowerReference (referenceMode config depth before kind) depth expression position
    | .directive =>
      match Directive.ofName? (Text.trim text) with
      | none => fail position (.unknownDirective text)
      | some directive => do
        let expression ←
          if directive.takesExpression then lowerChildren config (depth + 1) children else pure ""
        lowerDirective directive expression position

/-- Lowers siblings that follow a node of kind `before` and the literal text `run`, which has not
been written yet. Neighbouring literals become one statement. -/
def lowerSiblings (config : Config) (depth : Nat) (before : Option Kind) (run : String) :
    List Node → Lowering String
  | [] => pure (appendText run)
  | node :: nodes =>
    if node.kind = .literal then
      lowerSiblings config depth (some .literal) (run ++ node.text) nodes
    else do
      let code ← lowerNode config depth before (nodes.head?.map Node.kind) node
      let rest ← lowerSiblings config depth (some node.kind) "" nodes
      pure (appendText run ++ code ++ rest)

def lowerChildren (config : Config) (depth : Nat) : Option (List Node) → Lowering String
  | none => pure ""
  | some nodes => lowerSiblings config depth none "" nodes

/-- Lowers the parts of a string that follow a part of kind `before`. -/
def lowerParts (config : Config) (depth : Nat) (before : Option Kind) :
    List Node → Lowering String
  | [] => pure ""
  | node :: nodes => do
    let code ←
      if node.kind = .fragment then
        lowerNode config depth before (nodes.head?.map Node.kind) node
      else do
        let code ← lowerNode config (depth + 1) none none node
        pure (joinPart before ++ code)
    let rest ← lowerParts config depth (some node.kind) nodes
    pure (code ++ rest)

def lowerString (config : Config) (depth : Nat) : Option (List Node) → Lowering String
  | none => pure "''"
  | some [] => pure "''"
  | some (node :: nodes) => lowerParts config depth none (node :: nodes)

end

/-- Lowers a sequence of siblings. -/
def lowerSequence (config : Config) (depth : Nat) (nodes : List Node) : Lowering String :=
  lowerSiblings config depth none "" nodes

/-- A node lowers on its own as it does without neighbours. -/
theorem lowerSequence_singleton (config : Config) (depth : Nat) (node : Node) :
    lowerSequence config depth [node] = lowerNode config depth none none node := by
  obtain ⟨kind, text, children, position⟩ := node
  by_cases literal : kind = .literal
  · subst literal
    simp [lowerSequence, lowerSiblings, lowerNode]
  · have nothing : appendText "" = "" := rfl
    simp [lowerSequence, lowerSiblings, literal, nothing]

end TemplateCompiler.Lowering
