import TemplateCompiler.Compile

namespace TemplateCompiler

instance decidableEqExcept {ε α : Type} [DecidableEq ε] [DecidableEq α] : DecidableEq (Except ε α)
  | .ok first, .ok second => decidable_of_iff (first = second) ⟨congrArg Except.ok, Except.ok.inj⟩
  | .error first, .error second =>
    decidable_of_iff (first = second) ⟨congrArg Except.error, Except.error.inj⟩
  | .ok _, .error _ => isFalse nofun
  | .error _, .ok _ => isFalse nofun

@[simp] theorem Emission.hoistRoot_blocks (emission : Emission) (expression : String) :
    (emission.hoistRoot expression).blocks = emission.blocks := by
  unfold Emission.hoistRoot
  split
  · rfl
  · split <;> rfl

namespace Lowering

/-- The emission after a reference: its root is declared, and its helper is in use. -/
theorem referenceCode_emission (mode : ReferenceMode) (depth : Nat) (expression : String)
    (emission : Emission) :
    (referenceCode mode depth expression emission).2 =
      match mode with
      | .plain =>
        if depth = 0 then { emission.hoistRoot expression with usesText := true }
        else emission.hoistRoot expression
      | .quiet | .visible => { emission.hoistRoot expression with usesShow := true } := by
  unfold referenceCode
  cases mode with
  | plain => by_cases top : depth = 0 <;> simp only [top, if_true, if_false]
  | quiet => dsimp only
  | visible => dsimp only

@[simp] theorem referenceCode_blocks (mode : ReferenceMode) (depth : Nat)
    (expression : String) (emission : Emission) :
    (referenceCode mode depth expression emission).2.blocks = emission.blocks := by
  rw [referenceCode_emission]
  cases mode with
  | plain => by_cases top : depth = 0 <;> simp [top]
  | quiet => simp
  | visible => simp

/-- A sequence of two actions succeeds if both do, the second from where the first ended. -/
theorem run_bind_eq_ok {α β : Type} {action : Lowering α} {next : α → Lowering β}
    {emission result : Emission} {value : β}
    (run : (action >>= next).run emission = .ok value result) :
    ∃ middle between, action.run emission = .ok middle between ∧
      (next middle).run between = .ok value result := by
  rw [EStateM.run_bind] at run
  cases first : action.run emission with
  | ok middle between => exact ⟨middle, between, rfl, by rwa [first] at run⟩
  | error failure between => rw [first] at run; cases run

/-- A sequence of two actions fails where the first fails or else where the second does. -/
theorem run_bind_eq_error {α β : Type} {action : Lowering α} {next : α → Lowering β}
    {emission result : Emission} {failure : Failure}
    (run : (action >>= next).run emission = .error failure result) :
    action.run emission = .error failure result ∨
      ∃ middle between, action.run emission = .ok middle between ∧
        (next middle).run between = .error failure result := by
  rw [EStateM.run_bind] at run
  cases first : action.run emission with
  | ok middle between => exact .inr ⟨middle, between, rfl, by rwa [first] at run⟩
  | error cause between => rw [first] at run; cases run; exact .inl rfl

theorem lowerIf_run (expression : String) (position : Nat) (emission : Emission) :
    (lowerIf expression position).run emission =
      if assigns expression then .error ⟨position, .assignmentInCondition .ifThen expression⟩ emission
      else .ok ("if(" ++ expression ++ ")\x7b") (emission.openBlock .conditional position) := by
  unfold lowerIf rejectAssignment
  split <;> rfl

theorem lowerElseIf_run (expression : String) (position : Nat) (emission : Emission) :
    (lowerElseIf expression position).run emission =
      if emission.innermost? = some .conditional then
        if assigns expression then .error ⟨position, .assignmentInCondition .elseIf expression⟩ emission
        else .ok ("\x7delse if(" ++ expression ++ ")\x7b") emission
      else .error ⟨position, .elseIfOutsideConditional⟩ emission := by
  unfold lowerElseIf rejectAssignment
  rw [EStateM.run_bind]
  change EStateM.run (if emission.innermost? = some .conditional then _ else _) emission = _
  split
  · split <;> rfl
  · rfl

theorem lowerElse_run (position : Nat) (emission : Emission) :
    (lowerElse position).run emission =
      if emission.innermost? = some .conditional then .ok "\x7delse\x7b" emission
      else .error ⟨position, .elseOutsideConditional⟩ emission := by
  unfold lowerElse
  rw [EStateM.run_bind]
  change EStateM.run (if emission.innermost? = some .conditional then _ else _) emission = _
  split <;> rfl

theorem lowerEnd_run (position : Nat) (emission : Emission) :
    (lowerEnd position).run emission =
      match emission.blocks with
      | [] => .error ⟨position, .strayEnd⟩ emission
      | block :: outer => .ok (closingCode block.kind) { emission with blocks := outer } := by
  unfold lowerEnd
  rw [EStateM.run_bind]
  change EStateM.run (match emission.blocks with | [] => _ | _ :: _ => _) emission = _
  split <;> rfl

theorem lowerForEach_run (expression : String) (position : Nat) (emission : Emission) :
    (lowerForEach expression position).run emission =
      match loopParts? (Text.trim expression) with
      | none => .error ⟨position, .malformedLoop (Text.trim expression)⟩ emission
      | some (key, collection) =>
        .ok (Script.openLoop key collection) (emission.openBlock .loop position) := by
  unfold lowerForEach
  dsimp only
  cases loopParts? (Text.trim expression) <;> rfl

theorem lowerAssign_run (expression : String) (position : Nat) (emission : Emission) :
    (lowerAssign expression position).run emission =
      if isAssignment expression then .ok (expression ++ ";") (emission.hoistRoot expression)
      else .error ⟨position, .malformedAssignment expression⟩ emission := by
  unfold lowerAssign
  split <;> rfl

theorem lowerReference_run (mode : ReferenceMode) (depth : Nat) (expression : String)
    (position : Nat) (emission : Emission) :
    (lowerReference mode depth expression position).run emission =
      if (Text.trim expression).isEmpty then .error ⟨position, .emptyReference⟩ emission
      else .ok (referenceCode mode depth (Text.trim expression) emission).1
        (referenceCode mode depth (Text.trim expression) emission).2 := by
  unfold lowerReference
  dsimp only
  split <;> rfl

/-- What a directive with a given expression does when it is lowered, with the code that it gives
and the emission that it leaves. -/
inductive Performs (expression : String) (position : Nat) (emission : Emission) :
    Directive → String → Emission → Prop
  | ifThen : assigns expression = false →
      Performs expression position emission .ifThen ("if(" ++ expression ++ ")\x7b")
        (emission.openBlock .conditional position)
  | elseIf : emission.innermost? = some .conditional → assigns expression = false →
      Performs expression position emission .elseIf ("\x7delse if(" ++ expression ++ ")\x7b") emission
  | orElse : emission.innermost? = some .conditional →
      Performs expression position emission .orElse "\x7delse\x7b" emission
  | endBlock {block outer} : emission.blocks = block :: outer →
      Performs expression position emission .endBlock (closingCode block.kind)
        { emission with blocks := outer }
  | forEach {key collection} : loopParts? (Text.trim expression) = some (key, collection) →
      Performs expression position emission .forEach (Script.openLoop key collection)
        (emission.openBlock .loop position)
  | stop : Performs expression position emission .stop Script.returnOutput emission
  | assign : isAssignment expression = true →
      Performs expression position emission .assign (expression ++ ";") (emission.hoistRoot expression)

theorem lowerDirective_performs {directive : Directive} {expression code : String} {position : Nat}
    {emission result : Emission}
    (run : (lowerDirective directive expression position).run emission = .ok code result) :
    Performs expression position emission directive code result := by
  unfold lowerDirective at run
  split at run
  · cases run
  · cases directive with
    | ifThen =>
      simp only [lowerIf_run] at run
      split at run <;> cases run
      rename_i harmless
      exact .ifThen (Bool.eq_false_iff.mpr harmless)
    | elseIf =>
      simp only [lowerElseIf_run] at run
      split at run
      · rename_i innermost
        split at run <;> cases run
        rename_i harmless
        exact .elseIf innermost (Bool.eq_false_iff.mpr harmless)
      · cases run
    | orElse =>
      simp only [lowerElse_run] at run
      split at run <;> cases run
      exact .orElse ‹_›
    | endBlock =>
      simp only [lowerEnd_run] at run
      split at run <;> cases run
      exact .endBlock ‹_›
    | forEach =>
      simp only [lowerForEach_run] at run
      split at run <;> cases run
      exact .forEach ‹_›
    | stop => cases run; exact .stop
    | assign =>
      simp only [lowerAssign_run] at run
      split at run <;> cases run
      exact .assign ‹_›

theorem Performs.run {directive : Directive} {expression code : String} {position : Nat}
    {emission result : Emission}
    (performs : Performs expression position emission directive code result)
    (present : (directive.takesExpression && Text.isBlank expression) = false) :
    (lowerDirective directive expression position).run emission = .ok code result := by
  unfold lowerDirective
  rw [present]
  cases performs with
  | ifThen harmless => exact (lowerIf_run ..).trans (by rw [harmless]; rfl)
  | elseIf innermost harmless => exact (lowerElseIf_run ..).trans (by rw [if_pos innermost, harmless]; rfl)
  | orElse innermost => exact (lowerElse_run ..).trans (if_pos innermost)
  | endBlock top => exact (lowerEnd_run ..).trans (by rw [top])
  | forEach parts => exact (lowerForEach_run ..).trans (by rw [parts])
  | stop => rfl
  | assign assigns => exact (lowerAssign_run ..).trans (if_pos assigns)

theorem lowerDirective_present {directive : Directive} {expression code : String} {position : Nat}
    {emission result : Emission}
    (run : (lowerDirective directive expression position).run emission = .ok code result) :
    (directive.takesExpression && Text.isBlank expression) = false := by
  unfold lowerDirective at run
  split at run
  · cases run
  · rename_i present
    exact Bool.eq_false_iff.mpr present

/-- What a directive writes depends on the emission only through the open blocks. -/
theorem Performs.transfer {directive : Directive} {expression code : String} {position : Nat}
    {emission other result : Emission}
    (performs : Performs expression position emission directive code result)
    (same : emission.blocks = other.blocks) :
    ∃ result', Performs expression position other directive code result' ∧
      result.blocks = result'.blocks := by
  have innermost : emission.innermost? = other.innermost? := by
    rw [Emission.innermost?, Emission.innermost?, same]
  cases performs with
  | ifThen harmless => exact ⟨_, .ifThen harmless, congrArg (_ :: ·) same⟩
  | elseIf inside harmless => exact ⟨_, .elseIf (innermost ▸ inside) harmless, same⟩
  | orElse inside => exact ⟨_, .orElse (innermost ▸ inside), same⟩
  | endBlock top => exact ⟨_, .endBlock (same ▸ top), rfl⟩
  | forEach parts => exact ⟨_, .forEach parts, congrArg (_ :: ·) same⟩
  | stop => exact ⟨_, .stop, same⟩
  | assign assigns =>
    refine ⟨_, .assign assigns, ?_⟩
    rw [Emission.hoistRoot_blocks, Emission.hoistRoot_blocks, same]

/-- Why a directive with a given expression is refused. -/
inductive Refuses (expression : String) (emission : Emission) : Directive → Fault → Prop
  | missing {directive} : directive.takesExpression = true → Text.isBlank expression = true →
      Refuses expression emission directive (.missingExpression directive)
  | ifThen : assigns expression = true →
      Refuses expression emission .ifThen (.assignmentInCondition .ifThen expression)
  | elseIfOutside : emission.innermost? ≠ some .conditional →
      Refuses expression emission .elseIf .elseIfOutsideConditional
  | elseIf : emission.innermost? = some .conditional → assigns expression = true →
      Refuses expression emission .elseIf (.assignmentInCondition .elseIf expression)
  | orElse : emission.innermost? ≠ some .conditional →
      Refuses expression emission .orElse .elseOutsideConditional
  | endBlock : emission.blocks = [] → Refuses expression emission .endBlock .strayEnd
  | forEach : loopParts? (Text.trim expression) = none →
      Refuses expression emission .forEach (.malformedLoop (Text.trim expression))
  | assign : isAssignment expression = false →
      Refuses expression emission .assign (.malformedAssignment expression)

/-- A directive that is refused is blamed at its own position and changes nothing. -/
theorem lowerDirective_refuses {directive : Directive} {expression : String} {position : Nat}
    {emission result : Emission} {failure : Failure}
    (run : (lowerDirective directive expression position).run emission = .error failure result) :
    failure.position = position ∧ result = emission ∧
      Refuses expression emission directive failure.fault := by
  unfold lowerDirective at run
  split at run
  · rename_i absent
    obtain ⟨takes, blank⟩ := Bool.and_eq_true_iff.mp absent
    cases run
    exact ⟨rfl, rfl, .missing takes blank⟩
  · cases directive with
    | ifThen =>
      simp only [lowerIf_run] at run
      split at run <;> cases run
      exact ⟨rfl, rfl, .ifThen ‹_›⟩
    | elseIf =>
      simp only [lowerElseIf_run] at run
      split at run
      · split at run <;> cases run
        exact ⟨rfl, rfl, .elseIf ‹_› ‹_›⟩
      · cases run
        exact ⟨rfl, rfl, .elseIfOutside ‹_›⟩
    | orElse =>
      simp only [lowerElse_run] at run
      split at run <;> cases run
      exact ⟨rfl, rfl, .orElse ‹_›⟩
    | endBlock =>
      simp only [lowerEnd_run] at run
      split at run <;> cases run
      exact ⟨rfl, rfl, .endBlock ‹_›⟩
    | forEach =>
      simp only [lowerForEach_run] at run
      split at run <;> cases run
      exact ⟨rfl, rfl, .forEach ‹_›⟩
    | stop => cases run
    | assign =>
      simp only [lowerAssign_run] at run
      split at run <;> cases run
      rename_i other
      exact ⟨rfl, rfl, .assign (Bool.eq_false_iff.mpr other)⟩

/-- A directive is blamed on the open blocks at its own position, and only where its move cannot be
made: without a conditional around it, or without any block. -/
theorem lowerDirective_stuck {directive : Directive} {expression : String} {position : Nat}
    {emission result : Emission} {failure : Failure}
    (run : (lowerDirective directive expression position).run emission = .error failure result)
    (blocks : failure.fault.stage = .blocks) :
    failure.position = position ∧
      ((directive = .elseIf ∨ directive = .orElse) ∧ emission.innermost? ≠ some .conditional ∨
        directive = .endBlock ∧ emission.blocks = []) := by
  obtain ⟨place, _, refuses⟩ := lowerDirective_refuses run
  refine ⟨place, ?_⟩
  generalize failure.fault = fault at refuses blocks
  cases refuses with
  | elseIfOutside outside => exact .inl ⟨.inl rfl, outside⟩
  | orElse outside => exact .inl ⟨.inr rfl, outside⟩
  | endBlock empty => exact .inr ⟨rfl, empty⟩
  | missing => cases blocks
  | ifThen => cases blocks
  | elseIf => cases blocks
  | forEach => cases blocks
  | assign => cases blocks

end Lowering

/-- The body of a program stands between what it declares and what it returns. -/
theorem Script.Program.source_layout (config : Config) (program : Program) :
    program.source config = program.prologue config ++ program.body ++ "return $out;" := by
  have ending : "return $out;" = returnOutput := by decide +kernel
  rw [ending]
  rfl

/-- An accepted template has been lowered as a whole, with no block left open. -/
theorem compile_eq_ok {config : Config} {lines : LineLookup} {nodes : List Node} {compiled : Compiled}
    (accepted : compile config lines nodes = .ok compiled) :
    ∃ body emission, (Lowering.lowerSequence config 0 nodes).run {} = .ok body emission ∧
      emission.blocks = [] ∧
      programOf config nodes = .ok ⟨emission.hoisted, emission.usesShow, emission.usesText, body⟩ ∧
      compiled.hoisted = emission.hoisted ∧
      compiled.source =
        Script.Program.source config ⟨emission.hoisted, emission.usesShow, emission.usesText, body⟩ := by
  unfold compile at accepted
  unfold programOf at accepted ⊢
  cases run : (Lowering.lowerSequence config 0 nodes).run {} with
  | error failure emission => simp only [run] at accepted; cases accepted
  | ok body emission =>
    cases blocks : emission.blocks with
    | cons block outer => simp only [run, blocks] at accepted; cases accepted
    | nil =>
      simp only [run, blocks] at accepted
      cases accepted
      exact ⟨body, emission, rfl, blocks, by simp only [blocks], rfl, rfl⟩

/-- A template is refused for a node that cannot be lowered or for a block left open. -/
theorem compile_eq_error {config : Config} {lines : LineLookup} {nodes : List Node}
    {diagnostic : Diagnostic} (refused : compile config lines nodes = .error diagnostic) :
    (∃ failure emission, (Lowering.lowerSequence config 0 nodes).run {} = .error failure emission ∧
      diagnostic = (Rejection.faulty failure).diagnostic lines) ∨
    ∃ body emission block outer, (Lowering.lowerSequence config 0 nodes).run {} = .ok body emission ∧
      emission.blocks = block :: outer ∧
      diagnostic = (Rejection.unclosed block).diagnostic lines := by
  unfold compile programOf at refused
  cases run : (Lowering.lowerSequence config 0 nodes).run {} with
  | error failure emission =>
    simp only [run] at refused
    cases refused
    exact .inl ⟨failure, emission, rfl, rfl⟩
  | ok body emission =>
    cases blocks : emission.blocks with
    | nil => simp only [run, blocks] at refused; cases refused
    | cons block outer =>
      simp only [run, blocks] at refused
      cases refused
      exact .inr ⟨body, emission, block, outer, rfl, blocks, rfl⟩

theorem compile_of_failure {config : Config} {nodes : List Node} {failure : Failure} {emission : Emission}
    (failed : (Lowering.lowerSequence config 0 nodes).run {} = .error failure emission) (lines : LineLookup) :
    compile config lines nodes = .error ((Rejection.faulty failure).diagnostic lines) := by
  rw [compile, programOf, failed]

theorem compile_of_unclosed {config : Config} {nodes : List Node} {body : String} {emission : Emission}
    {block : OpenBlock} {outer : List OpenBlock}
    (lowered : (Lowering.lowerSequence config 0 nodes).run {} = .ok body emission)
    (left : emission.blocks = block :: outer) (lines : LineLookup) :
    compile config lines nodes = .error ((Rejection.unclosed block).diagnostic lines) := by
  rw [compile, programOf, lowered]
  simp only [left]

theorem compile_of_closed {config : Config} {nodes : List Node} {body : String} {emission : Emission}
    (lowered : (Lowering.lowerSequence config 0 nodes).run {} = .ok body emission)
    (closed : emission.blocks = []) (lines : LineLookup) :
    ∃ compiled, compile config lines nodes = .ok compiled := by
  rw [compile, programOf, lowered]
  simp only [closed]
  exact ⟨_, rfl⟩

end TemplateCompiler
