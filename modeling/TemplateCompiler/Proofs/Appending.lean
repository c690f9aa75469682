import TemplateCompiler.Proofs.Reached
import TemplateCompiler.Proofs.StringOperands

namespace TemplateCompiler

namespace Lowering

/-- What an action does apart from the text that it gives: the failure that it ends in, or the
emission that it leaves. -/
def effect (action : Lowering String) : Lowering Unit := do
  let _ ← action
  pure ()

theorem effect_pure (text : String) : effect (pure text) = pure () :=
  pure_bind ..

/-- A sequence of two actions, of which the second does the same whatever text the first gave. -/
theorem effect_bind {action : Lowering String} {next : String → Lowering String} {rest : Lowering Unit}
    (same : ∀ text, effect (next text) = rest) :
    effect (action >>= next) = (do effect action; rest) := by
  have later : ∀ text, (do let _ ← next text; pure ()) = rest := same
  simp only [effect, bind_assoc, later, pure_bind]

theorem effect_wrap (action : Lowering String) (wrapping : String → String) :
    effect (do let code ← action; pure (wrapping code)) = effect action := by
  simp only [effect, bind_assoc, pure_bind]

theorem effect_run_error {action : Lowering String} {emission result : Emission} {failure : Failure} :
    (effect action).run emission = .error failure result ↔ action.run emission = .error failure result := by
  rw [effect, EStateM.run_bind]
  cases action.run emission <;> simp

theorem effect_run_ok {action : Lowering String} {emission result : Emission} :
    (effect action).run emission = .ok () result ↔ ∃ code, action.run emission = .ok code result := by
  rw [effect, EStateM.run_bind]
  cases action.run emission <;> simp

/-- The node after a node changes the text of a fragment at most. -/
theorem effect_lookahead (config : Config) (depth : Nat) (before after after' : Option Kind) (node : Node) :
    effect (lowerNode config depth before after node) =
      effect (lowerNode config depth before after' node) := by
  by_cases fragment : node.kind = .fragment
  · rw [lowerNode_fragment fragment, lowerNode_fragment fragment, effect_pure, effect_pure]
  · rw [lowerNode_lookahead fragment config depth before after after']

theorem effect_lowerSiblings_cons {node : Node} (other : node.kind ≠ .literal) (config : Config)
    (depth : Nat) (before : Option Kind) (run : String) (nodes : List Node) :
    effect (lowerSiblings config depth before run (node :: nodes)) = (do
      effect (lowerNode config depth before none node)
      effect (lowerSiblings config depth (some node.kind) "" nodes)) := by
  rw [lowerSiblings, if_neg other, effect_bind fun code => effect_wrap _ (appendText run ++ code ++ ·),
    effect_lookahead config depth before _ none]

/-- Literal text that has not been written yet is in the text only. -/
theorem effect_pending (config : Config) (depth : Nat) (before : Option Kind) (run run' : String)
    (nodes : List Node) :
    effect (lowerSiblings config depth before run nodes) =
      effect (lowerSiblings config depth before run' nodes) := by
  induction nodes generalizing before run run' with
  | nil => rw [lowerSiblings, lowerSiblings, effect_pure, effect_pure]
  | cons node nodes ih =>
    by_cases literal : node.kind = .literal
    · rw [lowerSiblings, if_pos literal, lowerSiblings, if_pos literal]
      exact ih ..
    · rw [effect_lowerSiblings_cons literal, effect_lowerSiblings_cons literal]

/-- Siblings have their effects one after the other: the later ones start from what the earlier ones
leave, and they see of these only the kind of the last one. -/
theorem effect_append (config : Config) (depth : Nat) (before : Option Kind) (run : String)
    (left right : List Node) :
    effect (lowerSiblings config depth before run (left ++ right)) = (do
      effect (lowerSiblings config depth before run left)
      effect (lowerSiblings config depth (kindBefore before left) "" right)) := by
  -- What is appended changes how a last fragment is closed and where pending literal text is written.
  -- Both are matters of the text, so that they need no hypothesis here.
  induction left generalizing before run with
  | nil =>
    rw [List.nil_append, lowerSiblings, effect_pure, pure_bind]
    exact effect_pending ..
  | cons node left ih =>
    rw [List.cons_append, kindBefore_cons]
    by_cases literal : node.kind = .literal
    · rw [lowerSiblings, if_pos literal, lowerSiblings, if_pos literal, literal]
      exact ih ..
    · rw [effect_lowerSiblings_cons literal, effect_lowerSiblings_cons literal, ih, bind_assoc]

theorem lowerSequence_append_error {config : Config} {depth : Nat} {left : List Node} {failure : Failure}
    {emission result : Emission}
    (failed : (lowerSequence config depth left).run emission = .error failure result) (right : List Node) :
    (lowerSequence config depth (left ++ right)).run emission = .error failure result := by
  rw [lowerSequence, ← effect_run_error] at failed ⊢
  rw [effect_append, EStateM.run_bind, failed]

theorem lowerSequence_append_ok {config : Config} {depth : Nat} {left : List Node} {code : String}
    {emission between : Emission}
    (lowered : (lowerSequence config depth left).run emission = .ok code between) (right : List Node) :
    (effect (lowerSequence config depth (left ++ right))).run emission =
      (effect (lowerSiblings config depth (kindBefore none left) "" right)).run between := by
  have finished := effect_run_ok.mpr ⟨code, lowered⟩
  rw [lowerSequence] at finished ⊢
  rw [effect_append, EStateM.run_bind, finished]

end Lowering

/-- The first error is final. A template that is refused for one of its nodes is refused with the same
report whatever follows it. -/
theorem compile_keeps_first_error {config : Config} {lines : LineLookup} {nodes : List Node}
    {diagnostic : Diagnostic} (refused : compile config lines nodes = .error diagnostic)
    (inside : diagnostic.location ≠ .endOfInput) (later : List Node) :
    compile config lines (nodes ++ later) = .error diagnostic := by
  rcases compile_eq_error refused with ⟨failure, emission, failed, rfl⟩ |
    ⟨body, emission, block, outer, _, _, rfl⟩
  · exact compile_of_failure (Lowering.lowerSequence_append_error failed later) lines
  · exact absurd rfl inside

/-- A loop of the wrong form inside a conditional, and a fragment that would go on. -/
def malformedLoop : List Node :=
  [.literal "a", .directive "if" (some [.verbatim "x"]),
    (Node.directive "foreach" (some [.verbatim "x of xs"])).movedTo 7, .fragment "b"]

theorem compile_keeps_first_error_malformed :
    compile {} (· + 1) malformedLoop =
      .error ((Rejection.faulty ⟨7, .malformedLoop "x of xs"⟩).diagnostic (· + 1)) ∧
    compile {} (· + 1) (malformedLoop ++ [.fragment "c", .directive "end" none, .directive "loop" none]) =
      .error ((Rejection.faulty ⟨7, .malformedLoop "x of xs"⟩).diagnostic (· + 1)) := by
  have refused : compile {} (· + 1) malformedLoop =
      .error ((Rejection.faulty ⟨7, .malformedLoop "x of xs"⟩).diagnostic (· + 1)) := by decide +kernel
  exact ⟨refused, compile_keeps_first_error refused nofun _⟩

end TemplateCompiler
