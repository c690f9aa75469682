import Mathlib.Data.List.Forall2
import TemplateCompiler.Proofs.ForestEmission

namespace TemplateCompiler

/-- A conditional of a template: the directive that opens it, its first body and its later arms. -/
structure Conditional where
  opener : Command .ifThen
  body : Forest
  arms : Arms

mutual

/-- The conditionals of a forest, those inside other blocks included. -/
def Forest.conditionals : Forest → List Conditional
  | .nil => []
  | .leaf _ rest => rest.conditionals
  | .conditional opener body arms rest =>
    ⟨opener, body, arms⟩ :: (body.conditionals ++ (arms.conditionals ++ rest.conditionals))
  | .loop _ body _ rest => body.conditionals ++ rest.conditionals

def Arms.conditionals : Arms → List Conditional
  | .close _ => []
  | .arm _ body arms => body.conditionals ++ arms.conditionals

end

/-- The later arms of a conditional, each with its head and its body. -/
def Arms.list : Arms → List (ArmHead × Forest)
  | .close _ => []
  | .arm head body arms => (head, body) :: arms.list

/-- No arm follows an `else` of the same conditional. -/
def Arms.ElseIsLast (arms : Arms) : Prop :=
  arms.list.Pairwise fun earlier _ => earlier.1.1.command? ≠ some .orElse

instance (arms : Arms) : Decidable arms.ElseIsLast :=
  inferInstanceAs (Decidable (List.Pairwise _ _))

/-- The code of an arm, apart for its head and its body. -/
def EmitsArm (config : Config) (arm : ArmHead × Forest) (texts : String × String) : Prop :=
  arm.1.code? config = some texts.1 ∧
    arm.2.code? config (some .directive) "" (some .directive) = some texts.2

/-- The code of a conditional is made of its condition, the code of its first body and, for each
later arm in turn, the texts of its head and its body. -/
def Conditional.Emits (config : Config) (block : Conditional) (texts : List (String × String))
    (code : String) : Prop :=
  ∃ condition inside, block.opener.1.expression? config = some condition ∧
    block.body.code? config (some .directive) "" (some .directive) = some inside ∧
    List.Forall₂ (EmitsArm config) block.arms.list texts ∧
    code = "if(" ++ condition ++ ")\x7b" ++ inside ++
      String.join (texts.map fun text => text.1 ++ text.2) ++ "\x7d"

/-- Only an `else` is written as one: the code of an `elseif` goes on with its condition. -/
theorem ArmHead.code?_eq_else_iff {config : Config} {head : ArmHead} {text : String}
    (written : head.code? config = some text) :
    text = "\x7delse\x7b" ↔ head.1.command? = some .orElse := by
  unfold ArmHead.code? at written
  split at written
  · rename_i elseIf
    obtain ⟨condition, _, rfl⟩ := Option.map_eq_some_iff.mp written
    constructor
    · intro same
      have chars := congrArg (fun code : String => code.toList[5]?) same
      simp [String.toList_append] at chars
    · intro orElse
      cases elseIf.symm.trans orElse
  · rename_i other
    cases written
    exact ⟨fun _ => head.2.resolve_left other, fun _ => rfl⟩

/-- What a conditional in the code of a forest is taken apart into. -/
theorem Forest.code?_conditional {config : Config} {before after : Option Kind} {run code : String}
    {opener : Command .ifThen} {body : Forest} {arms : Arms} {rest : Forest}
    (written : (Forest.conditional opener body arms rest).code? config before run after = some code) :
    ∃ condition inside others later, opener.1.expression? config = some condition ∧
      body.code? config (some .directive) "" (some .directive) = some inside ∧
      arms.code? config = some others ∧ rest.code? config (some .directive) "" after = some later ∧
      code = Lowering.appendText run ++ ("if(" ++ condition ++ ")\x7b" ++ inside ++ others) ++ later := by
  rw [Forest.code?] at written
  obtain ⟨condition, expression, written⟩ := Option.bind_eq_some_iff.mp written
  obtain ⟨inside, bodyCode, written⟩ := Option.bind_eq_some_iff.mp written
  obtain ⟨others, armsCode, written⟩ := Option.bind_eq_some_iff.mp written
  obtain ⟨later, restCode, written⟩ := Option.bind_eq_some_iff.mp written
  cases written
  exact ⟨condition, inside, others, later, expression, bodyCode, armsCode, restCode, rfl⟩

theorem Forest.code?_loop {config : Config} {before after : Option Kind} {run code : String}
    {opener : Command .forEach} {body : Forest} {closer : Command .endBlock} {rest : Forest}
    (written : (Forest.loop opener body closer rest).code? config before run after = some code) :
    ∃ key collection inside later, body.code? config (some .directive) "" (some .directive) = some inside ∧
      rest.code? config (some .directive) "" after = some later ∧
      code = Lowering.appendText run ++
        (Script.openLoop key collection ++ inside ++ Script.closeLoop) ++ later := by
  rw [Forest.code?] at written
  obtain ⟨expression, _, written⟩ := Option.bind_eq_some_iff.mp written
  obtain ⟨⟨key, collection⟩, _, written⟩ := Option.bind_eq_some_iff.mp written
  obtain ⟨inside, bodyCode, written⟩ := Option.bind_eq_some_iff.mp written
  obtain ⟨later, restCode, written⟩ := Option.bind_eq_some_iff.mp written
  cases written
  exact ⟨key, collection, inside, later, bodyCode, restCode, rfl⟩

theorem Arms.code?_arm {config : Config} {head : ArmHead} {body : Forest} {arms : Arms} {code : String}
    (written : (Arms.arm head body arms).code? config = some code) :
    ∃ own inside others, EmitsArm config (head, body) (own, inside) ∧ arms.code? config = some others ∧
      code = own ++ inside ++ others := by
  rw [Arms.code?] at written
  obtain ⟨own, headCode, written⟩ := Option.bind_eq_some_iff.mp written
  obtain ⟨inside, bodyCode, written⟩ := Option.bind_eq_some_iff.mp written
  obtain ⟨others, armsCode, written⟩ := Option.bind_eq_some_iff.mp written
  cases written
  exact ⟨own, inside, others, ⟨headCode, bodyCode⟩, armsCode, rfl⟩

theorem Arms.emits {config : Config} : ∀ {arms : Arms} {code : String}, arms.code? config = some code →
    ∃ texts, List.Forall₂ (EmitsArm config) arms.list texts ∧
      code = String.join (texts.map fun text => text.1 ++ text.2) ++ "\x7d"
  | .close _, code, written => by
    cases written
    exact ⟨[], .nil, rfl⟩
  | .arm head body arms, code, written => by
    obtain ⟨own, inside, others, arm, armsCode, rfl⟩ := Arms.code?_arm written
    obtain ⟨texts, emitted, rfl⟩ := Arms.emits armsCode
    refine ⟨(own, inside) :: texts, .cons arm emitted, ?_⟩
    simp only [List.map_cons, String.join_cons, String.append_assoc]

/-- The code of a conditional stands somewhere in the given text. -/
def Conditional.EmittedIn (config : Config) (block : Conditional) (code : String) : Prop :=
  ∃ texts own leading trailing, block.Emits config texts own ∧ code = leading ++ own ++ trailing

theorem Conditional.EmittedIn.within {config : Config} {block : Conditional} {inner : String}
    (emitted : block.EmittedIn config inner) (leading trailing : String) :
    block.EmittedIn config (leading ++ inner ++ trailing) := by
  obtain ⟨texts, own, before, after, emits, rfl⟩ := emitted
  refine ⟨texts, own, leading ++ before, after ++ trailing, emits, ?_⟩
  simp only [String.append_assoc]

mutual

/-- Every conditional of a forest is written as a whole, wherever it stands. -/
theorem Forest.emits_conditional (config : Config) : ∀ (forest : Forest) {before after : Option Kind}
    {run code : String} {block : Conditional}, forest.code? config before run after = some code →
    block ∈ forest.conditionals → block.EmittedIn config code
  | .nil, _, _, _, _, _, _, member => nomatch member
  | .leaf leaf rest, before, after, run, code, block, written, member => by
    rw [Forest.code?] at written
    split at written
    · exact Forest.emits_conditional config rest written member
    · obtain ⟨own, _, written⟩ := Option.bind_eq_some_iff.mp written
      obtain ⟨later, restCode, written⟩ := Option.bind_eq_some_iff.mp written
      cases written
      have inside := (Forest.emits_conditional config rest restCode member).within
        (Lowering.appendText run ++ own) ""
      rwa [String.append_empty] at inside
  | .conditional opener body arms rest, before, after, run, code, block, written, member => by
    obtain ⟨condition, inside, others, later, expression, bodyCode, armsCode, restCode, rfl⟩ :=
      Forest.code?_conditional written
    simp only [Forest.conditionals, List.mem_cons, List.mem_append] at member
    rcases member with rfl | inBody | inArms | inRest
    · obtain ⟨texts, emitted, rfl⟩ := Arms.emits armsCode
      refine ⟨texts, _, Lowering.appendText run, later,
        ⟨condition, inside, expression, bodyCode, emitted, rfl⟩, ?_⟩
      simp only [String.append_assoc]
    · have emitted := (Forest.emits_conditional config body bodyCode inBody).within
        (Lowering.appendText run ++ ("if(" ++ condition ++ ")\x7b")) (others ++ later)
      simpa only [String.append_assoc] using emitted
    · have emitted := (Arms.emits_conditional config arms armsCode inArms).within
        (Lowering.appendText run ++ ("if(" ++ condition ++ ")\x7b" ++ inside)) later
      simpa only [String.append_assoc] using emitted
    · have emitted := (Forest.emits_conditional config rest restCode inRest).within
        (Lowering.appendText run ++ ("if(" ++ condition ++ ")\x7b" ++ inside ++ others)) ""
      rwa [String.append_empty] at emitted
  | .loop opener body closer rest, before, after, run, code, block, written, member => by
    obtain ⟨key, collection, inside, later, bodyCode, restCode, rfl⟩ := Forest.code?_loop written
    rcases List.mem_append.mp member with inBody | inRest
    · have emitted := (Forest.emits_conditional config body bodyCode inBody).within
        (Lowering.appendText run ++ Script.openLoop key collection) (Script.closeLoop ++ later)
      simpa only [String.append_assoc] using emitted
    · have emitted := (Forest.emits_conditional config rest restCode inRest).within
        (Lowering.appendText run ++ (Script.openLoop key collection ++ inside ++ Script.closeLoop)) ""
      rwa [String.append_empty] at emitted

theorem Arms.emits_conditional (config : Config) : ∀ (arms : Arms) {code : String} {block : Conditional},
    arms.code? config = some code → block ∈ arms.conditionals → block.EmittedIn config code
  | .close _, _, _, _, member => nomatch member
  | .arm head body arms, code, block, written, member => by
    obtain ⟨own, inside, others, ⟨_, bodyCode⟩, armsCode, rfl⟩ := Arms.code?_arm written
    rcases List.mem_append.mp member with inBody | inArms
    · exact (Forest.emits_conditional config body bodyCode inBody).within own others
    · have emitted := (Arms.emits_conditional config arms armsCode inArms).within (own ++ inside) ""
      rwa [String.append_empty] at emitted

end

/-- The node is the head of an arm of the conditional. -/
def Conditional.HasArm (block : Conditional) (node : Node) : Prop :=
  ∃ arm ∈ block.arms.list, arm.1.1 = node

mutual

/-- An arm of a template belongs to one of its conditionals. -/
theorem Forest.exists_conditional : ∀ (forest : Forest) {node : Node}, node ∈ forest.flatten →
    node.blockMove? = some .continues → ∃ block ∈ forest.conditionals, block.HasArm node
  | .nil, _, member, _ => nomatch member
  | .leaf leaf rest, node, member, continues => by
    rcases List.mem_cons.mp member with rfl | later
    · cases leaf.blockMove?.symm.trans continues
    · exact Forest.exists_conditional rest later continues
  | .conditional opener body arms rest, node, member, continues => by
    simp only [Forest.flatten, List.mem_cons, List.mem_append] at member
    simp only [Forest.conditionals, List.mem_cons, List.mem_append]
    rcases member with rfl | inBody | inArms | inRest
    · cases opener.blockMove?.symm.trans continues
    · obtain ⟨block, found, arm⟩ := Forest.exists_conditional body inBody continues
      exact ⟨block, .inr (.inl found), arm⟩
    · rcases Arms.exists_conditional arms inArms continues with own | ⟨block, found, arm⟩
      · exact ⟨_, .inl rfl, own⟩
      · exact ⟨block, .inr (.inr (.inl found)), arm⟩
    · obtain ⟨block, found, arm⟩ := Forest.exists_conditional rest inRest continues
      exact ⟨block, .inr (.inr (.inr found)), arm⟩
  | .loop opener body closer rest, node, member, continues => by
    simp only [Forest.flatten, List.mem_cons, List.mem_append] at member
    simp only [Forest.conditionals, List.mem_append]
    rcases member with rfl | inBody | rfl | inRest
    · cases opener.blockMove?.symm.trans continues
    · obtain ⟨block, found, arm⟩ := Forest.exists_conditional body inBody continues
      exact ⟨block, .inl found, arm⟩
    · cases closer.blockMove?.symm.trans continues
    · obtain ⟨block, found, arm⟩ := Forest.exists_conditional rest inRest continues
      exact ⟨block, .inr found, arm⟩

theorem Arms.exists_conditional : ∀ (arms : Arms) {node : Node}, node ∈ arms.flatten →
    node.blockMove? = some .continues →
    (∃ arm ∈ arms.list, arm.1.1 = node) ∨ ∃ block ∈ arms.conditionals, block.HasArm node
  | .close closer, node, member, continues => by
    rw [Arms.flatten, List.mem_singleton] at member
    subst member
    cases closer.blockMove?.symm.trans continues
  | .arm head body arms, node, member, continues => by
    simp only [Arms.flatten, List.mem_cons, List.mem_append] at member
    simp only [Arms.list, Arms.conditionals, List.mem_cons, List.mem_append]
    rcases member with rfl | inBody | inArms
    · exact .inl ⟨_, .inl rfl, rfl⟩
    · obtain ⟨block, found, arm⟩ := Forest.exists_conditional body inBody continues
      exact .inr ⟨block, .inl found, arm⟩
    · rcases Arms.exists_conditional arms inArms continues with ⟨arm, found, same⟩ | ⟨block, found, arm⟩
      · exact .inl ⟨arm, .inr found, same⟩
      · exact .inr ⟨block, .inr found, arm⟩

end

/-- Two lists that agree element by element on a property agree on whether it holds of all elements
but the last. -/
theorem pairwise_iff_of_forall₂ {α β : Type} {related : α → β → Prop} {holds : α → Prop}
    {holds' : β → Prop} {items : List α} {others : List β} (alike : List.Forall₂ related items others)
    (same : ∀ item other, related item other → (holds item ↔ holds' other)) :
    (items.Pairwise fun earlier _ => holds earlier) ↔ others.Pairwise fun earlier _ => holds' earlier := by
  induction alike with
  | nil => exact ⟨fun _ => .nil, fun _ => .nil⟩
  | @cons item other items others first rest ih =>
    rw [List.pairwise_cons, List.pairwise_cons, ih, same item other first]
    refine and_congr_left fun _ => ?_
    cases rest with
    | nil => simp only [List.not_mem_nil, false_imp_iff, implies_true]
    | cons => exact ⟨fun free _ _ => free _ List.mem_cons_self, fun free _ _ => free _ List.mem_cons_self⟩

theorem Arms.elseIsLast_iff {config : Config} {arms : Arms} {texts : List (String × String)}
    (emitted : List.Forall₂ (EmitsArm config) arms.list texts) :
    arms.ElseIsLast ↔ texts.Pairwise fun earlier _ => earlier.1 ≠ "\x7delse\x7b" :=
  pairwise_iff_of_forall₂ emitted fun _ _ arm => not_congr (ArmHead.code?_eq_else_iff arm.1).symm

/-- The arms of a conditional are written as they stand. In a flat template that is accepted, every
`elseif` and every `else` belongs to a conditional, and the body of the program holds the code of each
conditional with one arm for each of them, in the same order. Their number and order are left to the
template: an arm follows an `else` in the code of a conditional exactly if one does there. -/
theorem compile_emits_arms {config : Config} {lines : LineLookup} {nodes : List Node}
    {compiled : Compiled} (flat : ∀ node ∈ nodes, node.IsFlat)
    (accepted : compile config lines nodes = .ok compiled) :
    ∃ (forest : Forest) (program : Script.Program), forest.flatten = nodes ∧
      (∀ other : Forest, other.flatten = nodes → other = forest) ∧
      programOf config nodes = .ok program ∧
      compiled.source = program.prologue config ++ program.body ++ "return $out;" ∧
      (∀ node ∈ nodes, node.command? = some .elseIf ∨ node.command? = some .orElse →
        ∃ block ∈ forest.conditionals, block.HasArm node) ∧
      ∀ block ∈ forest.conditionals, ∃ texts code leading trailing,
        block.Emits config texts code ∧ program.body = leading ++ code ++ trailing ∧
        (block.arms.ElseIsLast ↔ texts.Pairwise fun earlier _ => earlier.1 ≠ "\x7delse\x7b") := by
  obtain ⟨body, emission, lowered, closed, program, _, source⟩ := compile_eq_ok accepted
  obtain ⟨forest, rfl, written⟩ := exists_forest_of_lowered flat lowered closed
  refine ⟨forest, _, rfl, fun other same => Forest.flatten_injective same, program,
    source.trans (Script.Program.source_layout ..), fun node member arm => ?_, fun block member => ?_⟩
  · have continues : node.blockMove? = some .continues := ArmHead.blockMove? ⟨node, arm⟩
    exact forest.exists_conditional member continues
  · obtain ⟨texts, code, leading, trailing, emits, split⟩ := forest.emits_conditional config written member
    have ⟨_, _, _, _, emitted, _⟩ := emits
    exact ⟨texts, code, leading, trailing, emits, split, Arms.elseIsLast_iff emitted⟩

/-- A conditional in which two arms follow an `else`, around one whose `else` is last. -/
def lateArms : List Node :=
  [.directive "if" (some [.verbatim "a"]), .directive "else" none,
    .directive "foreach" (some [.verbatim "x in xs"]), .directive "if" (some [.verbatim "x"]),
    .directive "else" none, .directive "end" none, .directive "end" none,
    .directive "elseif" (some [.verbatim "b"]), .directive "else" none, .directive "end" none]

theorem compile_emits_arms_late :
    (∀ node ∈ lateArms, node.IsFlat) ∧
    ∃ compiled, compile {} (fun _ => 1) lateArms = .ok compiled ∧
      ∃ (forest : Forest) (program : Script.Program), forest.flatten = lateArms ∧
        (∀ other : Forest, other.flatten = lateArms → other = forest) ∧
        programOf {} lateArms = .ok program ∧
        compiled.source = program.prologue {} ++ program.body ++ "return $out;" ∧
        (∀ node ∈ lateArms, node.command? = some .elseIf ∨ node.command? = some .orElse →
          ∃ block ∈ forest.conditionals, block.HasArm node) ∧
        ∀ block ∈ forest.conditionals, ∃ texts code leading trailing,
          block.Emits {} texts code ∧ program.body = leading ++ code ++ trailing ∧
          (block.arms.ElseIsLast ↔ texts.Pairwise fun earlier _ => earlier.1 ≠ "\x7delse\x7b") := by
  have flat : ∀ node ∈ lateArms, node.IsFlat := by decide +kernel
  have accepted : compile {} (fun _ => 1) lateArms = .ok ⟨Script.Program.source {} ⟨[], false, false,
      "if(a)\x7b\x7delse\x7b" ++ Script.openLoop "x" "xs" ++ "if(x)\x7b\x7delse\x7b\x7d" ++
        Script.closeLoop ++ "\x7delse if(b)\x7b\x7delse\x7b\x7d"⟩, []⟩ := by decide +kernel
  exact ⟨flat, _, accepted, compile_emits_arms flat accepted⟩

/-- A conditional with an `elseif` and a second `else` after its `else`. -/
def repeatedElse : Forest :=
  .conditional ⟨.directive "if" (some [.verbatim "a"]), by decide +kernel⟩ .nil
    (.arm ⟨.directive "else" none, by decide +kernel⟩ .nil
      (.arm ⟨.directive "elseif" (some [.verbatim "b"]), by decide +kernel⟩ .nil
        (.arm ⟨.directive "else" none, by decide +kernel⟩ .nil
          (.close ⟨.directive "end" none, by decide +kernel⟩)))) .nil

/-- An accepted conditional need not be a chain that a script can have. -/
theorem compile_accepts_repeated_else :
    (∀ node ∈ repeatedElse.flatten, node.IsFlat) ∧
    programOf {} repeatedElse.flatten =
      .ok ⟨[], false, false, "if(a)\x7b\x7delse\x7b\x7delse if(b)\x7b\x7delse\x7b\x7d"⟩ ∧
    (∃ compiled, compile {} (fun _ => 1) repeatedElse.flatten = .ok compiled) ∧
    ∃ block ∈ repeatedElse.conditionals, ¬ block.arms.ElseIsLast := by
  have program : programOf {} repeatedElse.flatten =
      .ok ⟨[], false, false, "if(a)\x7b\x7delse\x7b\x7delse if(b)\x7b\x7delse\x7b\x7d"⟩ := by
    decide +kernel
  refine ⟨by decide +kernel, program, ⟨_, by rw [compile, program]⟩, _, List.mem_cons_self, ?_⟩
  decide +kernel

end TemplateCompiler
