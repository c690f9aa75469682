import TemplateCompiler.Proofs.Outcomes

namespace TemplateCompiler

/-- What a list of nodes is lowered as. -/
inductive ListRole where
  | sequence
  /-- The parts of a string. -/
  | parts
  deriving DecidableEq, Repr

/-- What the children of a node of the kind are lowered as. -/
def Kind.childRole : Kind → ListRole
  | .string => .parts
  | _ => .sequence

/-- The second list is the first with one literal of it, or of a list anywhere inside it, cut into two
neighbours. The parts of a string are not cut themselves, only what stands inside them. -/
inductive LiteralCut : ListRole → List Node → List Node → Prop
  | here {whole first second : Node} {nodes : List Node} : whole.kind = .literal →
      first.kind = .literal → second.kind = .literal → whole.text = first.text ++ second.text →
      LiteralCut .sequence (whole :: nodes) (first :: second :: nodes)
  | inside {role : ListRole} {kind : Kind} {text : String} {children others nodes : List Node}
      {position : Nat} : LiteralCut kind.childRole children others →
      LiteralCut role (⟨kind, text, some children, position⟩ :: nodes)
        (⟨kind, text, some others, position⟩ :: nodes)
  | later {role : ListRole} {node : Node} {nodes others : List Node} : LiteralCut role nodes others →
      LiteralCut role (node :: nodes) (node :: others)

/-- The nodes after a node look the same to it. -/
theorem LiteralCut.head? {role : ListRole} {nodes others : List Node} (cut : LiteralCut role nodes others) :
    nodes.head?.map Node.kind = others.head?.map Node.kind := by
  cases cut with
  | here whole first => exact congrArg some (whole.trans first.symm)
  | inside => rfl
  | later => rfl

theorem LiteralCut.ne_nil {role : ListRole} {nodes others : List Node} (cut : LiteralCut role nodes others) :
    nodes ≠ [] ∧ others ≠ [] := by
  cases cut <;> exact ⟨List.cons_ne_nil _ _, List.cons_ne_nil _ _⟩

namespace Lowering

/-- Two lists of nodes lower to the same action wherever they stand. -/
def SameAction : ListRole → List Node → List Node → Prop
  | .sequence, nodes, others => ∀ config depth before run,
      lowerSiblings config depth before run nodes = lowerSiblings config depth before run others
  | .parts, nodes, others => ∀ config depth before,
      lowerParts config depth before nodes = lowerParts config depth before others

theorem SameAction.node {kind : Kind} {children others : List Node}
    (same : SameAction kind.childRole children others) (nonempty : children ≠ [] ∧ others ≠ [])
    (text : String) (position : Nat) (config : Config) (depth : Nat) (before after : Option Kind) :
    lowerNode config depth before after ⟨kind, text, some children, position⟩ =
      lowerNode config depth before after ⟨kind, text, some others, position⟩ := by
  cases kind with
  | literal | verbatim | fragment => simp only [lowerNode]
  | string =>
    obtain ⟨first, rest, rfl⟩ := List.exists_cons_of_ne_nil nonempty.1
    obtain ⟨other, later, rfl⟩ := List.exists_cons_of_ne_nil nonempty.2
    simp only [lowerNode, lowerString]
    exact same config depth none
  | reference | quietReference | directive =>
    have expression := same config (depth + 1) none ""
    simp only [lowerNode, lowerChildren, expression]

/-- A first node can be replaced by one of its kind that lowers to the same action. -/
theorem SameAction.head {node other : Node}
    (same : ∀ config depth before after,
      lowerNode config depth before after node = lowerNode config depth before after other)
    (kind : node.kind = other.kind) (text : node.text = other.text) (role : ListRole) (nodes : List Node) :
    SameAction role (node :: nodes) (other :: nodes) := by
  cases role with
  | sequence =>
    intro config depth before run
    simp only [lowerSiblings, kind, text, same]
  | parts =>
    intro config depth before
    simp only [lowerParts, kind, same]

theorem SameAction.tail {role : ListRole} {nodes others : List Node} (same : SameAction role nodes others)
    (ahead : nodes.head?.map Node.kind = others.head?.map Node.kind) (node : Node) :
    SameAction role (node :: nodes) (node :: others) := by
  cases role with
  | sequence =>
    intro config depth before run
    have rest := same config depth
    simp only [lowerSiblings, ahead, rest]
  | parts =>
    intro config depth before
    have rest := same config depth
    simp only [lowerParts, ahead, rest]

end Lowering

/-- A cut changes nothing in what is done: the two pieces join the same run of literal text, and the
nodes on both sides still have a literal beside them. -/
theorem LiteralCut.sameAction {role : ListRole} {nodes others : List Node}
    (cut : LiteralCut role nodes others) : Lowering.SameAction role nodes others := by
  induction cut with
  | here whole first second joined =>
    intro config depth before run
    simp only [Lowering.lowerSiblings, whole, first, second, joined, if_true, String.append_assoc]
  | @inside role kind text children others nodes position cut same =>
    have inner := same.node cut.ne_nil text position
    exact .head inner rfl rfl role nodes
  | later cut same => exact same.tail cut.head? _

/-- How literal text is cut does not matter. Cutting one literal into two neighbours, at any depth
except among the parts of a string, leaves the program and the report of a problem as they are. -/
theorem compile_ignores_literal_cuts {nodes others : List Node} (cut : LiteralCut .sequence nodes others)
    (config : Config) (lines : LineLookup) : compile config lines nodes = compile config lines others := by
  have same := cut.sameAction config 0 none ""
  rw [compile, compile, programOf, programOf, Lowering.lowerSequence, Lowering.lowerSequence, same]

/-- A reference whose expression is a string with a reference in it, which in turn has literal text
before a fragment. -/
def nestedText (literals : List Node) : List Node :=
  [.literal "n: ", .reference [.string [.fragment "a", .reference (literals ++ [.fragment "b"])]]]

def wholeText : List Node :=
  nestedText [.literal "xy"]

def cutText : List Node :=
  nestedText [.literal "x", (Node.literal "y").movedTo 3]

theorem compile_ignores_literal_cuts_nested :
    LiteralCut .sequence wholeText cutText ∧
    compile { undefinedOutput := true } (· + 1) wholeText =
      compile { undefinedOutput := true } (· + 1) cutText ∧
    (compile { undefinedOutput := true } (· + 1) wholeText).isOk = true := by
  have cut : LiteralCut .sequence wholeText cutText := by
    refine .later (.inside (.inside (.later (.inside (.here rfl rfl rfl ?_)))))
    decide
  exact ⟨cut, compile_ignores_literal_cuts cut _ _, by decide +kernel⟩

end TemplateCompiler
