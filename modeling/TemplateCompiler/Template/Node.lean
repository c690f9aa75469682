import TemplateCompiler.Template.Kind

namespace TemplateCompiler

/-- A node of a template tree. Having no children and having an empty list of them are told apart,
although both lower alike. -/
structure Node where
  kind : Kind
  text : String := ""
  children : Option (List Node) := none
  /-- The offset in the template source at which the node begins. -/
  position : Nat := 0
  deriving Repr

namespace Node

def literal (text : String) : Node := { kind := .literal, text := text }

def verbatim (text : String) : Node := { kind := .verbatim, text := text }

def directive (name : String) (expression : Option (List Node)) : Node :=
  { kind := .directive, text := name, children := expression }

def reference (expression : List Node) : Node :=
  { kind := .reference, children := some expression }

def quietReference (expression : List Node) : Node :=
  { kind := .quietReference, children := some expression }

def string (parts : List Node) : Node := { kind := .string, children := some parts }

def fragment (text : String) : Node := { kind := .fragment, text := text }

/-- The same node, beginning at another offset. -/
def movedTo (node : Node) (position : Nat) : Node := { node with position := position }

mutual

/-- The number of nodes in the subtree, this one included. -/
def size : Node → Nat
  | ⟨_, _, children, _⟩ => 1 + childrenSize children

def childrenSize : Option (List Node) → Nat
  | none => 0
  | some nodes => listSize nodes

def listSize : List Node → Nat
  | [] => 0
  | node :: nodes => node.size + listSize nodes

end

end Node

end TemplateCompiler
