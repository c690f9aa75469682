import TemplateCompiler.Proofs.Hoisting
import TemplateCompiler.Proofs.TwoRuns

namespace TemplateCompiler

namespace Lowering

/-- The options decide the mode of a reference only in the template's own text. -/
theorem referenceMode_eq {first second : Config} {depth : Nat}
    (alike : first.undefinedOutput = second.undefinedOutput ∨ depth ≠ 0) (before : Option Kind)
    (kind : Kind) : referenceMode first depth before kind = referenceMode second depth before kind := by
  unfold referenceMode
  rcases alike with same | inner
  · rw [same]
  · rw [beq_false_of_ne inner, Bool.and_false, Bool.and_false]

section

variable (first second : Config)

mutual

theorem lowerNode_eq (depth : Nat) (alike : first.undefinedOutput = second.undefinedOutput ∨ depth ≠ 0)
    (before after : Option Kind) :
    ∀ node : Node, lowerNode first depth before after node = lowerNode second depth before after node
  | ⟨.literal, _, _, _⟩ => rfl
  | ⟨.verbatim, _, _, _⟩ => rfl
  | ⟨.fragment, _, _, _⟩ => rfl
  | ⟨.string, _, children, _⟩ => lowerString_eq depth children
  | ⟨.reference, _, children, _⟩ | ⟨.quietReference, _, children, _⟩ => by
    simp only [lowerNode, lowerChildren_eq (depth + 1) (.inr depth.succ_ne_zero) children,
      referenceMode_eq alike]
  | ⟨.directive, _, children, _⟩ => by
    simp only [lowerNode, lowerChildren_eq (depth + 1) (.inr depth.succ_ne_zero) children]

theorem lowerSiblings_eq (depth : Nat)
    (alike : first.undefinedOutput = second.undefinedOutput ∨ depth ≠ 0) (before : Option Kind)
    (run : String) : ∀ nodes : List Node,
      lowerSiblings first depth before run nodes = lowerSiblings second depth before run nodes
  | [] => rfl
  | node :: nodes => by
    simp only [lowerSiblings, lowerNode_eq depth alike before _ node,
      lowerSiblings_eq depth alike _ _ nodes]

theorem lowerChildren_eq (depth : Nat)
    (alike : first.undefinedOutput = second.undefinedOutput ∨ depth ≠ 0) :
    ∀ children : Option (List Node), lowerChildren first depth children = lowerChildren second depth children
  | none => rfl
  | some nodes => lowerSiblings_eq depth alike none "" nodes

/-- A string is an expression wherever it stands: its parts are lowered one level deeper, and its
fragments have no options. -/
theorem lowerParts_eq (depth : Nat) (before : Option Kind) :
    ∀ nodes : List Node, lowerParts first depth before nodes = lowerParts second depth before nodes
  | [] => rfl
  | node :: nodes => by
    have rest := lowerParts_eq depth (some node.kind) nodes
    simp only [lowerParts, rest, lowerNode_eq (depth + 1) (.inr depth.succ_ne_zero) none none node]
    split
    · rename_i fragment
      obtain ⟨kind, text, children, position⟩ := node
      cases fragment
      rfl
    · rfl

theorem lowerString_eq (depth : Nat) :
    ∀ children : Option (List Node), lowerString first depth children = lowerString second depth children
  | none => rfl
  | some [] => rfl
  | some (node :: nodes) => lowerParts_eq depth none (node :: nodes)

end

end

end Lowering

/-- All is seen but which helpers are in use. -/
def View.helperless : View where
  position := id
  helper _ := false

theorem View.seenRejection_helperless (rejection : Rejection) :
    View.helperless.seenRejection rejection = rejection := by
  cases rejection <;> rfl

theorem View.seen_referenceCode_helperless (mode : Lowering.ReferenceMode) (depth : Nat)
    (expression : String) (emission : Emission) :
    View.helperless.seen (Lowering.referenceCode mode depth expression emission).2 =
      View.helperless.seen (emission.hoistRoot expression) := by
  rw [Lowering.referenceCode_emission]
  generalize emission.hoistRoot expression = declared
  cases mode with
  | plain =>
    dsimp only
    split <;> rfl
  | quiet => rfl
  | visible => rfl

/-- References that differ in their modes fail alike and declare the same variables. -/
theorem RunAlike.reference_modes (first second : Lowering.ReferenceMode) (depth : Nat)
    (expression : String) (position : Nat) :
    RunAlike .helperless (fun _ _ => True) (Lowering.lowerReference first depth expression position)
      (Lowering.lowerReference second depth expression position) := by
  intro emission other alike
  rw [Lowering.lowerReference_run, Lowering.lowerReference_run]
  split
  · exact .error rfl
  · refine .ok trivial ?_
    rw [View.seen_referenceCode_helperless, View.seen_referenceCode_helperless]
    exact View.seen_hoistRoot alike _

section

variable (first second : Config)

theorem RunAlike.node_options (before after : Option Kind) : ∀ node : Node,
    RunAlike .helperless (fun _ _ => True) (Lowering.lowerNode first 0 before after node)
      (Lowering.lowerNode second 0 before after node)
  | ⟨.literal, _, _, _⟩ => .text trivial
  | ⟨.verbatim, _, _, _⟩ => .text trivial
  | ⟨.fragment, _, _, _⟩ => .text trivial
  | ⟨.string, _, children, _⟩ => by
    simp only [Lowering.lowerNode, Lowering.lowerString_eq first second]
    exact ((walkClosed _).string second 0 children).weaken fun _ => trivial
  | ⟨.reference, _, children, position⟩ | ⟨.quietReference, _, children, position⟩ => by
    -- The expression is the same under both options, but the mode of the reference may differ.
    simp only [Lowering.lowerNode, Lowering.lowerChildren_eq first second 1 (.inr Nat.one_ne_zero)]
    exact ((walkClosed _).childNodes second 1 children).sequence fun expression =>
      reference_modes _ _ 0 expression position
  | ⟨.directive, text, children, position⟩ => by
    have same : Lowering.lowerNode first 0 before after ⟨.directive, text, children, position⟩ =
        Lowering.lowerNode second 0 before after ⟨.directive, text, children, position⟩ := by
      simp only [Lowering.lowerNode, Lowering.lowerChildren_eq first second 1 (.inr Nat.one_ne_zero)]
    rw [same]
    exact ((walkClosed _).node second 0 before after _).weaken fun _ => trivial

theorem RunAlike.siblings_options (nodes : List Node) (before : Option Kind) (run : String) :
    RunAlike .helperless (fun _ _ => True) (Lowering.lowerSiblings first 0 before run nodes)
      (Lowering.lowerSiblings second 0 before run nodes) := by
  induction nodes generalizing before run with
  | nil => exact .text trivial
  | cons node nodes ih =>
    simp only [Lowering.lowerSiblings]
    split
    · exact ih (some .literal) (run ++ node.text)
    · refine (node_options first second before _ node).sequence_of fun _ _ _ => ?_
      exact (ih (some node.kind) "").sequence_of fun _ _ _ => .text trivial

end

theorem programOf_eq {first second : Config} (same : first.undefinedOutput = second.undefinedOutput)
    (nodes : List Node) : programOf first nodes = programOf second nodes := by
  unfold programOf Lowering.lowerSequence
  rw [Lowering.lowerSiblings_eq first second 0 (.inl same)]

/-- The array helper stands before all that depends on the template. -/
theorem Script.Program.source_arraySizeHelper (program : Program) (config : Config) :
    ∃ rest, program.source { config with arraySizeHelper := false } = "'use strict';" ++ rest ∧
      program.source { config with arraySizeHelper := true } =
        "'use strict';" ++ arraySizePolyfill ++ rest := by
  rw [source_eq, source_eq]
  simp only [if_true, Bool.false_eq_true, if_false, String.append_empty, String.append_assoc]
  exact ⟨_, rfl, rfl⟩

theorem compile_arraySizeHelper {config : Config} {lines : LineLookup} {nodes : List Node}
    {compiled : Compiled}
    (accepted : compile { config with arraySizeHelper := false } lines nodes = .ok compiled) :
    ∃ rest, compiled.source = "'use strict';" ++ rest ∧
      compile { config with arraySizeHelper := true } lines nodes =
        .ok ⟨"'use strict';" ++ Script.arraySizePolyfill ++ rest, compiled.hoisted⟩ := by
  have same : programOf { config with arraySizeHelper := true } nodes =
      programOf { config with arraySizeHelper := false } nodes :=
    programOf_eq (by rfl) nodes
  unfold compile at accepted ⊢
  rw [same]
  cases found : programOf { config with arraySizeHelper := false } nodes with
  | error rejection =>
    rw [found] at accepted
    cases accepted
  | ok program =>
    rw [found] at accepted
    cases accepted
    obtain ⟨rest, without, together⟩ := program.source_arraySizeHelper config
    refine ⟨rest, without, ?_⟩
    rw [← together]

/-- The options have no say in what compiles. Under any two of them a template is refused with the
same diagnostic or is accepted with the same variables, and asking for the array helper adds nothing
but its text, right after the first statement of the program. -/
theorem compile_indifferent_to_options (lines : LineLookup) (nodes : List Node) (first second : Config) :
    ((∃ diagnostic, compile first lines nodes = .error diagnostic ∧
        compile second lines nodes = .error diagnostic) ∨
      ∃ compiled other, compile first lines nodes = .ok compiled ∧
        compile second lines nodes = .ok other ∧ compiled.hoisted = other.hoisted) ∧
    ∀ (config : Config) (compiled : Compiled),
      compile { config with arraySizeHelper := false } lines nodes = .ok compiled →
      ∃ rest, compiled.source = "'use strict';" ++ rest ∧
        compile { config with arraySizeHelper := true } lines nodes = .ok
          ⟨"'use strict';" ++
            "if(!Array.prototype.size)\x7bArray.prototype.size=function()\x7breturn this.length;\x7d;\x7d" ++ rest,
            compiled.hoisted⟩ := by
  refine ⟨?_, fun config compiled accepted => compile_arraySizeHelper accepted⟩
  have alike := RunAlike.siblings_options first second nodes none "" {} {} rfl
  unfold compile
  rcases alike.programs with ⟨rejection, other, refused, refused', seen⟩ |
    ⟨program, other, accepted, accepted', _, hoisted, _⟩
  · have same : rejection = other := by
      rwa [View.seenRejection_helperless, View.seenRejection_helperless] at seen
    rw [refused, refused', same]
    exact .inl ⟨_, rfl, rfl⟩
  · rw [accepted, accepted']
    exact .inr ⟨_, _, rfl, rfl, hoisted⟩

/-- A reference at the start of the text, whose code depends on the options, and a directive whose
expression reads the code of another reference. -/
def mixedReferences : List Node :=
  [.reference [.verbatim "user.name"],
    .directive "set" (some [.verbatim "total = ", .reference [.verbatim "sum"]])]

theorem compile_indifferent_to_options_mixed :
    ∃ plain visible, compile ⟨false, false⟩ (fun _ => 1) mixedReferences = .ok plain ∧
      compile ⟨true, true⟩ (fun _ => 1) mixedReferences = .ok visible ∧
      plain.hoisted = visible.hoisted ∧ plain.hoisted = ["user", "sum", "total"] ∧
      ∃ rest, plain.source = "'use strict';" ++ rest ∧
        compile ⟨true, false⟩ (fun _ => 1) mixedReferences = .ok
          ⟨"'use strict';" ++
            "if(!Array.prototype.size)\x7bArray.prototype.size=function()\x7breturn this.length;\x7d;\x7d" ++ rest,
            plain.hoisted⟩ := by
  obtain ⟨same, helper⟩ :=
    compile_indifferent_to_options (fun _ => 1) mixedReferences ⟨false, false⟩ ⟨true, true⟩
  have hoisted : (compile ⟨false, false⟩ (fun _ => 1) mixedReferences).map Compiled.hoisted =
      .ok ["user", "sum", "total"] := by decide +kernel
  rcases same with ⟨_, refused, _⟩ | ⟨plain, visible, accepted, accepted', equal⟩
  · rw [refused] at hoisted
    cases hoisted
  · rw [accepted] at hoisted
    exact ⟨plain, visible, accepted, accepted', equal, Except.ok.inj hoisted,
      helper ⟨false, false⟩ plain accepted⟩

end TemplateCompiler
