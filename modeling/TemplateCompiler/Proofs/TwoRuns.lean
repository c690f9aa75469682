import TemplateCompiler.Proofs.LoweredText

namespace TemplateCompiler

/-- What is looked at when two runs of lowering are compared. The open blocks and the variables
always are. -/
structure View where
  /-- What is seen of a position. -/
  position : Nat → Nat
  /-- What is seen of the mark that a helper is in use. -/
  helper : Bool → Bool

namespace View

def seenBlock (view : View) (block : OpenBlock) : OpenBlock :=
  ⟨block.kind, view.position block.position⟩

def seen (view : View) (emission : Emission) : Emission where
  blocks := emission.blocks.map view.seenBlock
  hoisted := emission.hoisted
  usesShow := view.helper emission.usesShow
  usesText := view.helper emission.usesText

def seenFailure (view : View) (failure : Failure) : Failure :=
  ⟨view.position failure.position, failure.fault⟩

def seenRejection (view : View) : Rejection → Rejection
  | .faulty failure => .faulty (view.seenFailure failure)
  | .unclosed block => .unclosed (view.seenBlock block)

variable {view : View} {emission other : Emission}

theorem seen_eq_iff : view.seen emission = view.seen other ↔
    emission.blocks.map view.seenBlock = other.blocks.map view.seenBlock ∧ emission.hoisted = other.hoisted ∧
      view.helper emission.usesShow = view.helper other.usesShow ∧
      view.helper emission.usesText = view.helper other.usesText := by
  simp only [View.seen, Emission.mk.injEq]

theorem innermost_eq (same : view.seen emission = view.seen other) :
    emission.innermost? = other.innermost? := by
  have kinds : ∀ blocks : List OpenBlock,
      blocks.head?.map OpenBlock.kind = (blocks.map view.seenBlock).head?.map OpenBlock.kind := by
    intro blocks
    cases blocks <;> rfl
  rw [Emission.innermost?, kinds emission.blocks, (seen_eq_iff.mp same).1, ← kinds other.blocks]
  rfl

theorem seen_openBlock {place elsewhere : Nat} (same : view.seen emission = view.seen other)
    (alike : view.position place = view.position elsewhere) (kind : BlockKind) :
    view.seen (emission.openBlock kind place) = view.seen (other.openBlock kind elsewhere) := by
  obtain ⟨blocks, rest⟩ := seen_eq_iff.mp same
  refine seen_eq_iff.mpr ⟨?_, rest⟩
  simp only [Emission.openBlock, List.map_cons, seenBlock, alike]
  exact congrArg _ blocks

theorem exists_closeBlock {block : OpenBlock} {outer : List OpenBlock}
    (same : view.seen emission = view.seen other) (top : emission.blocks = block :: outer) :
    ∃ block' outer', other.blocks = block' :: outer' ∧ view.seenBlock block = view.seenBlock block' ∧
      view.seen { emission with blocks := outer } = view.seen { other with blocks := outer' } := by
  obtain ⟨blocks, rest⟩ := seen_eq_iff.mp same
  rw [top, List.map_cons] at blocks
  obtain ⟨block', outer', split, alike, remaining⟩ := List.map_eq_cons_iff.mp blocks.symm
  exact ⟨block', outer', split, alike.symm, seen_eq_iff.mpr ⟨remaining.symm, rest⟩⟩

theorem blocks_eq_nil (same : view.seen emission = view.seen other) (empty : emission.blocks = []) :
    other.blocks = [] := by
  have blocks := (seen_eq_iff.mp same).1
  rw [empty, List.map_nil] at blocks
  exact List.map_eq_nil_iff.mp blocks.symm

theorem seen_hoistRoot (same : view.seen emission = view.seen other) (expression : String) :
    view.seen (emission.hoistRoot expression) = view.seen (other.hoistRoot expression) := by
  obtain ⟨blocks, hoisted, helpers⟩ := seen_eq_iff.mp same
  unfold Emission.hoistRoot
  rw [hoisted]
  split
  · exact same
  · split
    · exact same
    · exact seen_eq_iff.mpr ⟨blocks, rfl, helpers⟩

theorem seen_useShow (same : view.seen emission = view.seen other) :
    view.seen { emission with usesShow := true } = view.seen { other with usesShow := true } := by
  obtain ⟨blocks, hoisted, _, usesText⟩ := seen_eq_iff.mp same
  exact seen_eq_iff.mpr ⟨blocks, hoisted, rfl, usesText⟩

theorem seen_useText (same : view.seen emission = view.seen other) :
    view.seen { emission with usesText := true } = view.seen { other with usesText := true } := by
  obtain ⟨blocks, hoisted, usesShow, _⟩ := seen_eq_iff.mp same
  exact seen_eq_iff.mpr ⟨blocks, hoisted, usesShow, rfl⟩

theorem seen_referenceCode (same : view.seen emission = view.seen other)
    (mode : Lowering.ReferenceMode) (depth : Nat) (expression : String) :
    view.seen (Lowering.referenceCode mode depth expression emission).2 =
      view.seen (Lowering.referenceCode mode depth expression other).2 := by
  have hoisted := seen_hoistRoot same expression
  rw [Lowering.referenceCode_emission, Lowering.referenceCode_emission]
  cases mode with
  | plain =>
    dsimp only
    split
    · exact seen_useText hoisted
    · exact hoisted
  | quiet => exact seen_useShow hoisted
  | visible => exact seen_useShow hoisted

end View

/-- Two outcomes of lowering that look alike: successes with texts that correspond to each other, or
failures for the same fault. -/
inductive Alike (view : View) (texts : String → String → Prop) :
    EStateM.Result Failure Emission String → EStateM.Result Failure Emission String → Prop
  | ok {code written : String} {result other : Emission} : texts code written →
      view.seen result = view.seen other → Alike view texts (.ok code result) (.ok written other)
  | error {failure reported : Failure} {result other : Emission} :
      view.seenFailure failure = view.seenFailure reported →
      Alike view texts (.error failure result) (.error reported other)

/-- Templates whose lowering looks alike are rejected for reasons that look alike, or they both have
programs, which declare the same variables. -/
theorem Alike.programs {view : View} {texts : String → String → Prop} {first second : Config}
    {nodes others : List Node}
    (alike : Alike view texts ((Lowering.lowerSequence first 0 nodes).run {})
      ((Lowering.lowerSequence second 0 others).run {})) :
    (∃ rejection reported, programOf first nodes = .error rejection ∧
      programOf second others = .error reported ∧
      view.seenRejection rejection = view.seenRejection reported) ∨
    ∃ program other, programOf first nodes = .ok program ∧ programOf second others = .ok other ∧
      texts program.body other.body ∧ program.hoisted = other.hoisted ∧
      view.helper program.usesShow = view.helper other.usesShow ∧
      view.helper program.usesText = view.helper other.usesText := by
  unfold programOf
  generalize (Lowering.lowerSequence first 0 nodes).run {} = outcome at alike ⊢
  generalize (Lowering.lowerSequence second 0 others).run {} = outcome' at alike ⊢
  cases alike with
  | error seen => exact .inl ⟨_, _, rfl, rfl, congrArg Rejection.faulty seen⟩
  | @ok code written result other corresponds seen =>
    dsimp only
    cases top : result.blocks with
    | nil =>
      rw [View.blocks_eq_nil seen top]
      obtain ⟨_, declared⟩ := View.seen_eq_iff.mp seen
      exact .inr ⟨_, _, rfl, rfl, corresponds, declared⟩
    | cons block outer =>
      obtain ⟨block', outer', top', same, _⟩ := View.exists_closeBlock seen top
      rw [top']
      exact .inl ⟨_, _, rfl, rfl, congrArg Rejection.unclosed same⟩

/-- Two actions have outcomes that look alike whenever they start from emissions that do. -/
def RunAlike (view : View) (texts : String → String → Prop) (first second : Lowering String) : Prop :=
  ∀ emission other, view.seen emission = view.seen other →
    Alike view texts (first.run emission) (second.run other)

namespace RunAlike

variable {view : View} {texts : String → String → Prop}

theorem text {code written : String} (same : texts code written) :
    RunAlike view texts (pure code) (pure written) :=
  fun _ _ alike => .ok same alike

theorem fail {place elsewhere : Nat} (same : view.position place = view.position elsewhere)
    (fault : Fault) : RunAlike view texts (Lowering.fail place fault) (Lowering.fail elsewhere fault) :=
  fun _ _ _ => .error (congrArg (Failure.mk · fault) same)

theorem sequence_of {inner : String → String → Prop} {first second : Lowering String}
    {next later : String → Lowering String} (start : RunAlike view inner first second)
    (rest : ∀ code written, inner code written → RunAlike view texts (next code) (later written)) :
    RunAlike view texts (first >>= next) (second >>= later) := by
  intro emission other same
  have alike := start emission other same
  rw [EStateM.run_bind, EStateM.run_bind]
  generalize first.run emission = outcome at alike ⊢
  generalize second.run other = outcome' at alike ⊢
  cases alike with
  | ok corresponds same => exact rest _ _ corresponds _ _ same
  | error same => exact .error same

theorem sequence {first second : Lowering String} {next later : String → Lowering String}
    (start : RunAlike view Eq first second)
    (rest : ∀ code, RunAlike view texts (next code) (later code)) :
    RunAlike view texts (first >>= next) (second >>= later) := by
  refine start.sequence_of fun code written same => ?_
  subst same
  exact rest code

theorem wrap {first second : Lowering String} (alike : RunAlike view Eq first second)
    (wrapping : String → String) :
    RunAlike view Eq (do let code ← first; pure (wrapping code)) (do let code ← second; pure (wrapping code)) :=
  alike.sequence fun _ => text rfl

theorem weaken {first second : Lowering String} (alike : RunAlike view Eq first second)
    (all : ∀ code, texts code code) : RunAlike view texts first second := by
  intro emission other same
  have outcome := alike emission other same
  generalize first.run emission = result at outcome ⊢
  generalize second.run other = result' at outcome ⊢
  cases outcome with
  | ok code same => exact .ok (code ▸ all _) same
  | error same => exact .error same

theorem reference {place elsewhere : Nat} (same : view.position place = view.position elsewhere)
    (mode : Lowering.ReferenceMode) (depth : Nat) (expression : String) :
    RunAlike view Eq (Lowering.lowerReference mode depth expression place)
      (Lowering.lowerReference mode depth expression elsewhere) := by
  intro emission other alike
  rw [Lowering.lowerReference_run, Lowering.lowerReference_run]
  split
  · exact .error (congrArg (Failure.mk · .emptyReference) same)
  · refine .ok ?_ (View.seen_referenceCode alike mode depth _)
    exact Lowering.referenceCode_text mode depth _ emission other

theorem directive {place elsewhere : Nat} (same : view.position place = view.position elsewhere)
    (directive : Directive) (expression : String) :
    RunAlike view Eq (Lowering.lowerDirective directive expression place)
      (Lowering.lowerDirective directive expression elsewhere) := by
  have blamed : ∀ fault, view.seenFailure ⟨place, fault⟩ = view.seenFailure ⟨elsewhere, fault⟩ :=
    fun fault => congrArg (Failure.mk · fault) same
  intro emission other alike
  unfold Lowering.lowerDirective
  split
  · exact .error (blamed _)
  · cases directive with
    | ifThen =>
      simp only [Lowering.lowerIf_run]
      split
      · exact .error (blamed _)
      · exact .ok rfl (View.seen_openBlock alike same .conditional)
    | elseIf =>
      simp only [Lowering.lowerElseIf_run, View.innermost_eq alike]
      split
      · split
        · exact .error (blamed _)
        · exact .ok rfl alike
      · exact .error (blamed _)
    | orElse =>
      simp only [Lowering.lowerElse_run, View.innermost_eq alike]
      split
      · exact .ok rfl alike
      · exact .error (blamed _)
    | endBlock =>
      simp only [Lowering.lowerEnd_run]
      cases top : emission.blocks with
      | nil =>
        rw [View.blocks_eq_nil alike top]
        exact .error (blamed _)
      | cons block outer =>
        obtain ⟨block', outer', split, kind, rest⟩ := View.exists_closeBlock alike top
        rw [split]
        exact .ok (congrArg (fun seen => Lowering.closingCode seen.kind) kind) rest
    | forEach =>
      simp only [Lowering.lowerForEach_run]
      split
      · exact .error (blamed _)
      · exact .ok rfl (View.seen_openBlock alike same .loop)
    | stop => exact .ok rfl alike
    | assign =>
      simp only [Lowering.lowerAssign_run]
      split
      · exact .ok rfl (View.seen_hoistRoot alike expression)
      · exact .error (blamed _)

/-- Lowering shows nothing of an emission that it has not seen: what the view leaves out changes
neither the text nor the failure. -/
theorem walkClosed (view : View) : WalkClosed fun _ action => RunAlike view Eq action action where
  text _ := text rfl
  sequence start rest := start.sequence rest
  reference _ visit expression _ := reference rfl _ visit.depth expression
  directive _ directive expression _ := RunAlike.directive rfl directive expression
  unknown _ _ _ := fail rfl _

end RunAlike

end TemplateCompiler
