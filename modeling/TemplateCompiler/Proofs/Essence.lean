import TemplateCompiler.Proofs.TwoRuns

namespace TemplateCompiler

mutual

/-- The node without what lowering does not read: its position, the text of a reference or a string,
the children of plain text and of a directive that takes no expression, and white space around the
name of a directive. Children that are absent become an empty list. -/
def Node.essence : Node → Node
  | ⟨kind, text, children, _⟩ =>
    match kind with
    | .literal | .verbatim | .fragment => { kind := kind, text := text }
    | .reference | .quietReference | .string =>
      { kind := kind, children := some (childEssences children) }
    | .directive =>
      match Directive.ofName? (Text.trim text) with
      | none => { kind := .directive, text := text, children := some (childEssences children) }
      | some directive =>
        { kind := .directive
          text := Text.trim text
          children := if directive.takesExpression then some (childEssences children) else none }

def childEssences : Option (List Node) → List Node
  | none => []
  | some nodes => essences nodes

def essences : List Node → List Node
  | [] => []
  | node :: nodes => node.essence :: essences nodes

end

theorem Node.essence_kind (node : Node) : node.essence.kind = node.kind := by
  obtain ⟨kind, text, children, position⟩ := node
  cases kind with
  | directive =>
    simp only [Node.essence]
    cases Directive.ofName? (Text.trim text) <;> rfl
  | _ => rfl

theorem Node.essence_text {node : Node} (literal : node.kind = .literal) :
    node.essence.text = node.text := by
  obtain ⟨kind, text, children, position⟩ := node
  cases literal
  rfl

theorem head?_essences (nodes : List Node) :
    (essences nodes).head?.map Node.kind = nodes.head?.map Node.kind := by
  cases nodes with
  | nil => rfl
  | cons node nodes => exact congrArg some node.essence_kind

theorem Directive.eq_name_of_ofName? {name : String} {directive : Directive}
    (known : ofName? name = some directive) : name = directive.name := by
  unfold ofName? at known
  repeat' split at known
  all_goals cases known
  all_goals assumption

theorem Directive.ofName?_trim_trim {text : String} {directive : Directive}
    (known : ofName? (Text.trim text) = some directive) :
    ofName? (Text.trim (Text.trim text)) = some directive := by
  have trimmed : Text.trim directive.name = directive.name := by
    cases directive <;> decide +kernel
  rw [eq_name_of_ofName? known, trimmed, ofName?_name]

/-- All is seen but where things stand. -/
def View.unplaced : View where
  position _ := 0
  helper := id

theorem View.unplaced_position (place elsewhere : Nat) :
    View.unplaced.position place = View.unplaced.position elsewhere := rfl

mutual

theorem Node.runAlike_essence (config : Config) (depth : Nat) (before after : Option Kind) :
    ∀ node : Node, RunAlike .unplaced Eq (Lowering.lowerNode config depth before after node)
      (Lowering.lowerNode config depth before after node.essence)
  | ⟨.literal, text, _, _⟩ => .text rfl
  | ⟨.verbatim, text, _, _⟩ => .text rfl
  | ⟨.fragment, text, _, _⟩ => .text rfl
  | ⟨.string, _, children, _⟩ => runAlike_string config depth children
  | ⟨.reference, _, children, position⟩ | ⟨.quietReference, _, children, position⟩ =>
    (runAlike_children config (depth + 1) children).sequence
      (.reference (View.unplaced_position position 0) _ depth)
  | ⟨.directive, text, children, position⟩ => by
    simp only [Node.essence]
    cases known : Directive.ofName? (Text.trim text) with
    | none =>
      simp only [Lowering.lowerNode, known]
      exact .fail (View.unplaced_position position 0) _
    | some directive =>
      simp only [Lowering.lowerNode, known, Directive.ofName?_trim_trim known]
      split
      · exact (runAlike_children config (depth + 1) children).sequence
          (.directive (View.unplaced_position position 0) directive)
      · exact (RunAlike.text rfl).sequence (.directive (View.unplaced_position position 0) directive)

theorem runAlike_siblings (config : Config) (depth : Nat) (before : Option Kind) (run : String) :
    ∀ nodes : List Node, RunAlike .unplaced Eq (Lowering.lowerSiblings config depth before run nodes)
      (Lowering.lowerSiblings config depth before run (essences nodes))
  | [] => .text rfl
  | node :: nodes => by
    simp only [essences, Lowering.lowerSiblings, node.essence_kind, head?_essences]
    split
    · rename_i literal
      rw [Node.essence_text literal]
      exact runAlike_siblings config depth (some .literal) (run ++ node.text) nodes
    · refine (node.runAlike_essence config depth before _).sequence fun code => ?_
      exact (runAlike_siblings config depth (some node.kind) "" nodes).wrap _

theorem runAlike_children (config : Config) (depth : Nat) :
    ∀ children : Option (List Node), RunAlike .unplaced Eq (Lowering.lowerChildren config depth children)
      (Lowering.lowerChildren config depth (some (childEssences children)))
  | none => .text rfl
  | some nodes => runAlike_siblings config depth none "" nodes

theorem runAlike_parts (config : Config) (depth : Nat) (before : Option Kind) :
    ∀ nodes : List Node, RunAlike .unplaced Eq (Lowering.lowerParts config depth before nodes)
      (Lowering.lowerParts config depth before (essences nodes))
  | [] => .text rfl
  | node :: nodes => by
    simp only [essences, Lowering.lowerParts, node.essence_kind, head?_essences]
    have rest := fun code : String => (runAlike_parts config depth (some node.kind) nodes).wrap (code ++ ·)
    split
    · exact (node.runAlike_essence config depth before _).sequence rest
    · refine (node.runAlike_essence config (depth + 1) none none).sequence fun code => ?_
      exact (RunAlike.text rfl).sequence rest

theorem runAlike_string (config : Config) (depth : Nat) :
    ∀ children : Option (List Node), RunAlike .unplaced Eq (Lowering.lowerString config depth children)
      (Lowering.lowerString config depth (some (childEssences children)))
  | none => .text rfl
  | some [] => .text rfl
  | some (node :: nodes) => runAlike_parts config depth none (node :: nodes)

end

theorem Alike.of_common {view : View} {first second common : EStateM.Result Failure Emission String}
    (here : Alike view Eq first common) (there : Alike view Eq second common) :
    Alike view Eq first second := by
  cases here with
  | ok code same =>
    cases there with
    | ok written other => exact .ok (code.trans written.symm) (same.trans other.symm)
  | error same =>
    cases there with
    | error other => exact .error (same.trans other.symm)

theorem Lowering.alike_of_essences {nodes others : List Node} (same : essences nodes = essences others)
    (config : Config) : Alike .unplaced Eq ((lowerSequence config 0 nodes).run {})
      ((lowerSequence config 0 others).run {}) := by
  have here := runAlike_siblings config 0 none "" nodes {} {} rfl
  have there := runAlike_siblings config 0 none "" others {} {} rfl
  rw [← same] at there
  exact here.of_common there

/-- Two diagnostics that differ at most in where they are and in the line on which a block was
opened. -/
structure Diagnostic.SameReport (diagnostic other : Diagnostic) : Prop where
  message : diagnostic.message = other.message
  stage : diagnostic.stage = other.stage
  details : ∀ detail, detail ≠ .openedOnLine → diagnostic.details.get? detail = other.details.get? detail

theorem Rejection.sameReport {rejection other : Rejection}
    (same : View.unplaced.seenRejection rejection = View.unplaced.seenRejection other)
    (lines elsewhere : LineLookup) :
    (rejection.diagnostic lines).SameReport (other.diagnostic elsewhere) := by
  cases rejection with
  | faulty failure =>
    cases other with
    | unclosed block => cases same
    | faulty reported =>
      obtain ⟨position, fault⟩ := failure
      obtain ⟨position', fault'⟩ := reported
      cases same
      exact ⟨rfl, rfl, fun _ _ => rfl⟩
  | unclosed block =>
    cases other with
    | faulty failure => cases same
    | unclosed block' =>
      obtain ⟨kind, position⟩ := block
      obtain ⟨kind', position'⟩ := block'
      cases same
      refine ⟨rfl, rfl, fun detail shown => ?_⟩
      cases detail with
      | openedOnLine => exact absurd rfl shown
      | _ => rfl

/-- Positions, line lookups and what lowering does not read of a node do not influence the program.
Templates with the same essence compile to the same program, or they are refused with diagnostics
that differ at most in their places. -/
theorem compile_reads_essence {nodes others : List Node} (same : essences nodes = essences others)
    (config : Config) (lines elsewhere : LineLookup) :
    (∃ compiled, compile config lines nodes = .ok compiled ∧
      compile config elsewhere others = .ok compiled) ∨
    ∃ diagnostic other, compile config lines nodes = .error diagnostic ∧
      compile config elsewhere others = .error other ∧ diagnostic.SameReport other := by
  unfold compile
  rcases (Lowering.alike_of_essences same config).programs with
    ⟨rejection, other, refused, refused', seen⟩ |
    ⟨program, other, accepted, accepted', body, hoisted, usesShow, usesText⟩
  · rw [refused, refused']
    exact .inr ⟨_, _, rfl, rfl, Rejection.sameReport seen lines elsewhere⟩
  · have equal : program = other := by
      obtain ⟨names, showing, writing, code⟩ := program
      cases hoisted
      cases usesShow
      cases usesText
      cases body
      rfl
    rw [accepted, accepted', equal]
    exact .inl ⟨_, rfl, rfl⟩

/-- A conditional without anything that lowering does not read. -/
def bareConditional : List Node :=
  [.directive "if" (some [.verbatim "x"]), .reference [.verbatim "x.y"], .directive "else" none,
    .literal "none", .directive "end" none]

/-- The same conditional with positions, the text of its reference, white space around the names of
its directives and children that nothing reads. -/
def placedConditional : List Node :=
  [(Node.directive " if" (some [.verbatim "x"])).movedTo 2,
    ⟨.reference, "$x.y", some [(Node.verbatim "x.y").movedTo 6], 5⟩,
    (Node.directive "else\n" (some [.directive "else" none])).movedTo 9,
    ⟨.literal, "none", some [.literal "none"], 14⟩, (Node.directive "\tend " (some [])).movedTo 18]

theorem compile_reads_essence_placed :
    (∃ compiled, compile {} (· + 1) placedConditional = .ok compiled ∧
      compile {} (fun _ => 1) bareConditional = .ok compiled) ∧
    ∃ diagnostic other, compile {} (· + 1) placedConditional.dropLast = .error diagnostic ∧
      compile {} (fun _ => 1) bareConditional.dropLast = .error other ∧ diagnostic.SameReport other ∧
      diagnostic.details.get? .openedOnLine = some "3" ∧
      other.details.get? .openedOnLine = some "1" := by
  have closed : essences placedConditional = essences bareConditional := rfl
  have unclosed : essences placedConditional.dropLast = essences bareConditional.dropLast := rfl
  constructor
  · have accepted : (compile {} (· + 1) placedConditional).isOk = true := by decide +kernel
    rcases compile_reads_essence closed {} (· + 1) (fun _ => 1) with same | ⟨_, _, refused, _⟩
    · exact same
    · rw [refused] at accepted
      cases accepted
  · have placed : compile {} (· + 1) placedConditional.dropLast =
        .error ((Rejection.unclosed ⟨.conditional, 2⟩).diagnostic (· + 1)) := by decide +kernel
    have bare : compile {} (fun _ => 1) bareConditional.dropLast =
        .error ((Rejection.unclosed ⟨.conditional, 0⟩).diagnostic (fun _ => 1)) := by decide +kernel
    have same := compile_reads_essence unclosed {} (· + 1) (fun _ => 1)
    rw [placed, bare] at same
    rcases same with ⟨_, accepted, _⟩ | ⟨_, _, refused, refused', report⟩
    · cases accepted
    · cases refused
      cases refused'
      exact ⟨_, _, placed, bare, report, by decide +kernel, by decide +kernel⟩

end TemplateCompiler
