import TemplateCompiler.Lowering.Walk

namespace TemplateCompiler

/-- The directive that a node is, if it is one with a known name. -/
def Node.command? (node : Node) : Option Directive :=
  if node.kind = .directive then Directive.ofName? (Text.trim node.text) else none

theorem Node.command?_directive (text : String) (children : Option (List Node)) (position : Nat) :
    (⟨.directive, text, children, position⟩ : Node).command? = Directive.ofName? (Text.trim text) :=
  if_pos rfl

theorem Node.kind_of_command {node : Node} {directive : Directive}
    (command : node.command? = some directive) : node.kind = .directive := by
  unfold command? at command
  split at command
  · assumption
  · cases command

/-- A node at which lowering does more than hand over text, a reference or a directive, with its
depth and the kind of the sibling before it. -/
structure Visit where
  depth : Nat
  before : Option Kind
  node : Node

mutual

/-- The visits to a node and to what stands inside it, in the order of the walk. A node is visited
after everything inside its children, and the children of a directive without an expression are
not visited at all. -/
def Node.visits (depth : Nat) (before : Option Kind) : Node → List Visit
  | ⟨kind, text, children, position⟩ =>
    match kind with
    | .literal | .verbatim | .fragment => []
    | .string => stringVisits depth children
    | .reference | .quietReference =>
      childVisits (depth + 1) children ++ [⟨depth, before, ⟨kind, text, children, position⟩⟩]
    | .directive =>
      (if (Directive.ofName? (Text.trim text)).any Directive.takesExpression then
        childVisits (depth + 1) children else []) ++
        [⟨depth, before, ⟨kind, text, children, position⟩⟩]

def siblingVisits (depth : Nat) (before : Option Kind) : List Node → List Visit
  | [] => []
  | node :: nodes => node.visits depth before ++ siblingVisits depth (some node.kind) nodes

def childVisits (depth : Nat) : Option (List Node) → List Visit
  | none => []
  | some nodes => siblingVisits depth none nodes

def partVisits (depth : Nat) : List Node → List Visit
  | [] => []
  | node :: nodes => node.visits (depth + 1) none ++ partVisits depth nodes

def stringVisits (depth : Nat) : Option (List Node) → List Visit
  | none => []
  | some nodes => partVisits depth nodes

end

/-- The visits to a whole template. -/
def templateVisits (nodes : List Node) : List Visit :=
  siblingVisits 0 none nodes

/-- What a specification of lowering needs to hold of the whole walk: it holds of text that is
handed over, it goes from two actions to their sequence, and it holds of the handler of each visit.
No other action of the walk touches the emission. -/
structure WalkClosed (Spec : List Visit → Lowering String → Prop) : Prop where
  text : ∀ code, Spec [] (pure code)
  sequence : ∀ {first second : List Visit} {action : Lowering String} {next : String → Lowering String},
    Spec first action → (∀ code, Spec second (next code)) → Spec (first ++ second) (action >>= next)
  reference : ∀ (config : Config) (visit : Visit) (expression : String),
    visit.node.kind = .reference ∨ visit.node.kind = .quietReference →
    Spec [visit] (Lowering.lowerReference
      (Lowering.referenceMode config visit.depth visit.before visit.node.kind) visit.depth expression
      visit.node.position)
  directive : ∀ (visit : Visit) (directive : Directive) (expression : String),
    visit.node.command? = some directive →
    Spec [visit] (Lowering.lowerDirective directive expression visit.node.position)
  unknown : ∀ visit : Visit, visit.node.kind = .directive → visit.node.command? = none →
    Spec [visit] (Lowering.fail visit.node.position (.unknownDirective visit.node.text))

namespace WalkClosed

variable {Spec : List Visit → Lowering String → Prop} (closed : WalkClosed Spec)

include closed

/-- Text put around the code of an action needs no visit. -/
theorem wrap {visits : List Visit} {action : Lowering String} (wrapping : String → String)
    (holds : Spec visits action) : Spec visits (do let code ← action; pure (wrapping code)) := by
  have whole := closed.sequence holds (fun code => closed.text (wrapping code))
  rwa [List.append_nil] at whole

mutual

theorem node (config : Config) (depth : Nat) (before after : Option Kind) :
    ∀ node : Node, Spec (node.visits depth before) (Lowering.lowerNode config depth before after node)
  | ⟨.literal, text, _, _⟩ => closed.text (Lowering.appendText text)
  | ⟨.verbatim, text, _, _⟩ => closed.text text
  | ⟨.fragment, text, _, _⟩ => closed.text (Lowering.fragmentCode before after text)
  | ⟨.string, _, children, _⟩ => string config depth children
  | ⟨.reference, text, children, position⟩ => by
    refine closed.sequence (childNodes config (depth + 1) children) (fun expression => ?_)
    exact closed.reference config ⟨depth, before, ⟨.reference, text, children, position⟩⟩ expression (.inl rfl)
  | ⟨.quietReference, text, children, position⟩ => by
    refine closed.sequence (childNodes config (depth + 1) children) (fun expression => ?_)
    exact closed.reference config ⟨depth, before, ⟨.quietReference, text, children, position⟩⟩ expression
      (.inr rfl)
  | ⟨.directive, text, children, position⟩ => by
    let visit : Visit := ⟨depth, before, ⟨.directive, text, children, position⟩⟩
    have named := Node.command?_directive text children position
    simp only [Node.visits, Lowering.lowerNode]
    cases command : Directive.ofName? (Text.trim text) with
    | none => exact closed.unknown visit rfl (named.trans command)
    | some directive =>
      have holds := fun expression => closed.directive visit directive expression (named.trans command)
      simp only [Option.any_some]
      split
      · exact closed.sequence (childNodes config (depth + 1) children) holds
      · exact closed.sequence (closed.text "") holds

theorem siblings (config : Config) (depth : Nat) (before : Option Kind) (run : String) :
    ∀ nodes : List Node,
      Spec (siblingVisits depth before nodes) (Lowering.lowerSiblings config depth before run nodes)
  | [] => closed.text (Lowering.appendText run)
  | first :: nodes => by
    simp only [siblingVisits, Lowering.lowerSiblings]
    split
    · rename_i literal
      have silent : first.visits depth before = [] := by
        obtain ⟨kind, text, children, position⟩ := first
        cases literal
        rfl
      rw [silent, literal]
      exact siblings config depth (some .literal) (run ++ first.text) nodes
    · refine closed.sequence (node config depth before _ first) (fun code => ?_)
      exact closed.wrap _ (siblings config depth (some first.kind) "" nodes)

theorem childNodes (config : Config) (depth : Nat) :
    ∀ children : Option (List Node),
      Spec (childVisits depth children) (Lowering.lowerChildren config depth children)
  | none => closed.text ""
  | some nodes => siblings config depth none "" nodes

theorem parts (config : Config) (depth : Nat) (before : Option Kind) :
    ∀ nodes : List Node, Spec (partVisits depth nodes) (Lowering.lowerParts config depth before nodes)
  | [] => closed.text ""
  | first :: nodes => by
    simp only [partVisits, Lowering.lowerParts]
    split
    · rename_i fragment
      obtain ⟨kind, text, children, position⟩ := first
      cases fragment
      exact closed.sequence (closed.text _)
        (fun code => closed.wrap _ (parts config depth (some .fragment) nodes))
    · refine closed.sequence (node config (depth + 1) none none first) (fun code => ?_)
      exact closed.wrap _ (parts config depth (some first.kind) nodes)

theorem string (config : Config) (depth : Nat) :
    ∀ children : Option (List Node),
      Spec (stringVisits depth children) (Lowering.lowerString config depth children)
  | none => closed.text "''"
  | some [] => closed.text "''"
  | some (first :: nodes) => parts config depth none (first :: nodes)

end

end WalkClosed

end TemplateCompiler
