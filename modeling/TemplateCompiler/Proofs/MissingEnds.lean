import TemplateCompiler.Proofs.Appending

namespace TemplateCompiler

namespace Lowering

theorem lowerNode_end {node : Node} (closer : node.command? = some .endBlock) (config : Config) (depth : Nat)
    (before after : Option Kind) : lowerNode config depth before after node = lowerEnd node.position := by
  obtain ⟨kind, text, children, position⟩ := node
  cases Node.kind_of_command closer
  rw [Node.command?_directive] at closer
  simp [lowerNode, closer, lowerDirective, Directive.takesExpression]

/-- Each `end` closes the innermost block, and the first one that finds none is blamed. -/
theorem effect_ends {ends : List Node} (closers : ∀ node ∈ ends, node.command? = some .endBlock)
    (config : Config) (depth : Nat) (before : Option Kind) (emission : Emission) :
    (effect (lowerSiblings config depth before "" ends)).run emission =
      match ends[emission.blocks.length]? with
      | none => .ok () { emission with blocks := emission.blocks.drop ends.length }
      | some stray => .error ⟨stray.position, .strayEnd⟩ { emission with blocks := [] } := by
  -- On the ends, from any emission: each of them leaves one block and one end less.
  induction ends generalizing before emission with
  | nil => rfl
  | cons node ends ih =>
    obtain ⟨closer, closers⟩ := List.forall_mem_cons.mp closers
    have other : node.kind ≠ .literal := by
      rw [Node.kind_of_command closer]
      decide
    obtain ⟨blocks, hoisted, usesShow, usesText⟩ := emission
    rw [effect_lowerSiblings_cons other, lowerNode_end closer, EStateM.run_bind]
    have ended := lowerEnd_run node.position ⟨blocks, hoisted, usesShow, usesText⟩
    cases blocks with
    | nil => rw [effect_run_error.mpr ended]; rfl
    | cons block outer =>
      rw [effect_run_ok.mpr ⟨_, ended⟩]
      exact ih closers _ ⟨outer, hoisted, usesShow, usesText⟩

end Lowering

/-- The block is the one that an `end` right after the nodes closes: it is the innermost block that the
nodes leave open, and only the blocks around it are open after such an `end`. -/
def NextEndCloses (nodes : List Node) (block : OpenBlock) : Prop :=
  ∃ outer, runBlocks [] (blockTrace (templateVisits nodes)) = .ok (block :: outer) ∧
    ∀ closer : Node, closer.command? = some .endBlock →
      runBlocks [] (blockTrace (templateVisits (nodes ++ [closer]))) = .ok outer

section

variable {config : Config} {nodes ends : List Node} {body : String} {emission : Emission}
  (lowered : (Lowering.lowerSequence config 0 nodes).run {} = .ok body emission)
  (closers : ∀ node ∈ ends, node.command? = some .endBlock)

include lowered closers

theorem lowerSequence_ends_ok (few : ends.length ≤ emission.blocks.length) :
    ∃ code, (Lowering.lowerSequence config 0 (nodes ++ ends)).run {} =
      .ok code { emission with blocks := emission.blocks.drop ends.length } := by
  have run := Lowering.lowerSequence_append_ok lowered ends
  rw [Lowering.effect_ends closers, List.getElem?_eq_none few] at run
  exact Lowering.effect_run_ok.mp run

theorem lowerSequence_ends_error {stray : Node} (found : ends[emission.blocks.length]? = some stray) :
    (Lowering.lowerSequence config 0 (nodes ++ ends)).run {} =
      .error ⟨stray.position, .strayEnd⟩ { emission with blocks := [] } := by
  have run := Lowering.lowerSequence_append_ok lowered ends
  rw [Lowering.effect_ends closers, found] at run
  exact Lowering.effect_run_error.mp run

theorem nextEndCloses_ends (fewer : ends.length < emission.blocks.length) :
    NextEndCloses (nodes ++ ends) emission.blocks[ends.length] := by
  obtain ⟨code, run⟩ := lowerSequence_ends_ok lowered closers fewer.le
  refine ⟨emission.blocks.drop (ends.length + 1), ?_, fun closer closes => ?_⟩
  · rw [(followsBlocks_template config (nodes ++ ends)).moves run, List.drop_eq_getElem_cons fewer]
  · have closers' : ∀ node ∈ ends ++ [closer], node.command? = some .endBlock :=
      List.forall_mem_append.mpr ⟨closers, List.forall_mem_singleton.mpr closes⟩
    have length : (ends ++ [closer]).length = ends.length + 1 := List.length_append
    obtain ⟨code', run'⟩ := lowerSequence_ends_ok lowered closers' (by omega)
    rw [List.append_assoc, (followsBlocks_template config _).moves run', length]

end

/-- An unclosed template is repaired by exactly as many `end`s as it leaves blocks open. With fewer of
them the report names the block that the next `end` would close, and with more of them the first one
that has no block to close is a stray one. -/
theorem compile_repaired_by_ends {config : Config} {lines : LineLookup} {nodes : List Node}
    {diagnostic : Diagnostic} (refused : compile config lines nodes = .error diagnostic)
    (unclosed : diagnostic.location = .endOfInput) :
    ∃ count, 1 ≤ count ∧ ∀ ends : List Node, (∀ node ∈ ends, node.command? = some .endBlock) →
      (ends.length < count → ∃ block report, NextEndCloses (nodes ++ ends) block ∧
        compile config lines (nodes ++ ends) = .error report ∧ report.location = .endOfInput ∧
        report.ReportsUnclosed block.kind ∧
        report.details.get? .directive = some block.kind.opener.name ∧
        report.details.get? .openedOnLine = some (toString (lines block.position))) ∧
      (ends.length = count → ∃ compiled, compile config lines (nodes ++ ends) = .ok compiled) ∧
      (count < ends.length → ∃ stray, ends[count]? = some stray ∧
        compile config lines (nodes ++ ends) =
          .error ((Rejection.faulty ⟨stray.position, .strayEnd⟩).diagnostic lines)) := by
  rcases compile_eq_error refused with ⟨failure, emission, _, rfl⟩ |
    ⟨body, emission, innermost, around, lowered, left, rfl⟩
  · cases unclosed
  have positive : 1 ≤ emission.blocks.length := by
    rw [left, List.length_cons]
    omega
  refine ⟨emission.blocks.length, positive, fun ends closers => ⟨fun fewer => ?_, fun exactly => ?_, fun more => ?_⟩⟩
  · obtain ⟨code, run⟩ := lowerSequence_ends_ok lowered closers fewer.le
    have refused' := compile_of_unclosed run (List.drop_eq_getElem_cons fewer) lines
    exact ⟨_, _, nextEndCloses_ends lowered closers fewer, refused', rfl, ⟨rfl, rfl⟩, rfl, rfl⟩
  · obtain ⟨code, run⟩ := lowerSequence_ends_ok lowered closers exactly.le
    exact compile_of_closed run (List.drop_eq_nil_of_le exactly.ge) lines
  · have found := List.getElem?_eq_getElem more
    exact ⟨_, found, compile_of_failure (lowerSequence_ends_error lowered closers found) lines⟩

/-- A loop, with a conditional that is opened inside the expression of a reference. -/
def openBlocks : List Node :=
  [(Node.directive "foreach" (some [.verbatim "x in xs"])).movedTo 2,
    .reference [(Node.directive "if" (some [.verbatim "x"])).movedTo 7, .verbatim "y"], .fragment "z"]

def trailingEnds : List Node :=
  [.directive "end" none, (Node.directive " end" none).movedTo 20,
    (Node.directive "end" (some [.directive "else" none])).movedTo 30]

theorem compile_repaired_by_ends_nested :
    compile {} (· / 5 + 1) openBlocks =
      .error ((Rejection.unclosed ⟨.conditional, 7⟩).diagnostic (· / 5 + 1)) ∧
    (∃ block report, NextEndCloses (openBlocks ++ trailingEnds.take 1) block ∧
      compile {} (· / 5 + 1) (openBlocks ++ trailingEnds.take 1) = .error report ∧
      report.details.get? .directive = some block.kind.opener.name ∧
      report.details.get? .openedOnLine = some (toString (block.position / 5 + 1)) ∧
      report.details.get? .openedOnLine = some "1") ∧
    (∃ compiled, compile {} (· / 5 + 1) (openBlocks ++ trailingEnds.take 2) = .ok compiled) ∧
    compile {} (· / 5 + 1) (openBlocks ++ trailingEnds) =
      .error ((Rejection.faulty ⟨30, .strayEnd⟩).diagnostic (· / 5 + 1)) := by
  have refused : compile {} (· / 5 + 1) openBlocks =
      .error ((Rejection.unclosed ⟨.conditional, 7⟩).diagnostic (· / 5 + 1)) := by decide +kernel
  have looped : compile {} (· / 5 + 1) (openBlocks ++ trailingEnds.take 1) =
      .error ((Rejection.unclosed ⟨.loop, 2⟩).diagnostic (· / 5 + 1)) := by decide +kernel
  have accepted : (compile {} (· / 5 + 1) (openBlocks ++ trailingEnds.take 2)).isOk = true := by
    decide +kernel
  have closers : ∀ node ∈ trailingEnds, node.command? = some .endBlock := by decide +kernel
  obtain ⟨count, _, repaired⟩ := compile_repaired_by_ends refused rfl
  have taken := fun few => repaired (trailingEnds.take few) fun node member =>
    closers node (List.mem_of_mem_take member)
  -- Two ends are accepted, so that they are neither too few nor too many.
  have two : count = 2 := by
    obtain ⟨fewer, _, more⟩ := taken 2
    rcases Nat.lt_trichotomy count 2 with less | same | greater
    · obtain ⟨_, _, stray⟩ := more less
      rw [stray] at accepted
      cases accepted
    · exact same
    · obtain ⟨_, _, _, unclosed, _⟩ := fewer greater
      rw [unclosed] at accepted
      cases accepted
  subst two
  refine ⟨refused, ?_, (taken 2).2.1 rfl, ?_⟩
  · obtain ⟨block, report, closes, unclosed, _, _, directive, opened⟩ := (taken 1).1 (by decide)
    cases unclosed.symm.trans looped
    exact ⟨block, _, closes, looped, directive, opened, by decide +kernel⟩
  · obtain ⟨stray, found, blamed⟩ := (repaired trailingEnds closers).2.2 (by decide)
    cases found
    exact blamed

end TemplateCompiler
