import Mathlib.Data.List.SplitBy
import TemplateCompiler.Proofs.LoweredText

namespace TemplateCompiler.Lowering

/-- The string that a run of fragments is written as. -/
def quotedRun (run : List Node) : String :=
  "'" ++ String.join (run.map fun node => Script.escapeFragment node.text) ++ "'"

/-- Whether two neighbours belong to one run of fragments. -/
def sharesQuotes (first second : Node) : Bool :=
  first.kind == .fragment && second.kind == .fragment

/-- The operand that a group of parts of a string gives: a run of fragments is one string, and any
other part is lowered on its own. -/
def operandCode (config : Config) (depth : Nat) (group : List Node) : Lowering String :=
  if group.all (·.kind == .fragment) then pure (quotedRun group)
  else lowerSequence config (depth + 1) group

/-- One or more fragments side by side. -/
structure IsRun (run : List Node) : Prop where
  nonempty : run ≠ []
  fragments : ∀ node ∈ run, node.kind = .fragment

theorem IsRun.tail {first second : Node} {nodes : List Node} (run : IsRun (first :: second :: nodes)) :
    IsRun (second :: nodes) :=
  ⟨List.cons_ne_nil _ _, fun node member => run.fragments node (List.mem_cons_of_mem _ member)⟩

/-- The plus sign towards a neighbour. -/
def plusBeside : Option Kind → String
  | none => ""
  | some _ => "+"

theorem fragmentCode_first {before : Option Kind} (apart : before ≠ some .fragment) (after : Option Kind)
    (text : String) :
    fragmentCode before after text = plusBeside before ++ "'" ++ fragmentCode (some .fragment) after text := by
  rcases before with _ | kind
  · simp [fragmentCode, plusBeside, String.append_assoc]
  · cases kind with
    | fragment => exact absurd rfl apart
    | _ => simp [fragmentCode, plusBeside, String.append_assoc]

theorem fragmentCode_last {after : Option Kind} (apart : after ≠ some .fragment) (text : String) :
    fragmentCode (some .fragment) after text = Script.escapeFragment text ++ "'" ++ plusBeside after := by
  rcases after with _ | kind
  · simp [fragmentCode, plusBeside]
  · cases kind with
    | fragment => exact absurd rfl apart
    | _ => simp [fragmentCode, plusBeside, String.append_assoc]

/-- The code of a run of fragments between neighbours of the given kinds. -/
def runCode (before after : Option Kind) : List Node → String
  | [] => ""
  | node :: nodes =>
    fragmentCode before ((nodes.head?.map Node.kind).or after) node.text ++
      runCode (some .fragment) after nodes

theorem runCode_inside {after : Option Kind} (apart : after ≠ some .fragment) {run : List Node}
    (fragments : IsRun run) :
    runCode (some .fragment) after run =
      String.join (run.map fun node => Script.escapeFragment node.text) ++ "'" ++ plusBeside after := by
  induction run with
  | nil => exact absurd rfl fragments.nonempty
  | cons first nodes ih =>
    rw [List.map_cons, String.join_cons]
    cases nodes with
    | nil =>
      have last := fragmentCode_last apart first.text
      simpa [runCode] using last
    | cons second nodes =>
      have next : second.kind = .fragment := fragments.fragments second (by simp)
      have inner : fragmentCode (some .fragment) (some .fragment) first.text =
          Script.escapeFragment first.text := by simp [fragmentCode]
      rw [runCode, ih fragments.tail, List.head?_cons, Option.map_some, next, Option.some_or, inner]
      simp only [String.append_assoc]

/-- A run of fragments is one string, with a plus sign towards each neighbour. -/
theorem runCode_eq {before after : Option Kind} (apartBefore : before ≠ some .fragment)
    (apartAfter : after ≠ some .fragment) {run : List Node} (fragments : IsRun run) :
    runCode before after run = plusBeside before ++ quotedRun run ++ plusBeside after := by
  have inside := runCode_inside apartAfter fragments
  cases run with
  | nil => exact absurd rfl fragments.nonempty
  | cons first nodes =>
    rw [runCode] at inside ⊢
    rw [fragmentCode_first apartBefore, String.append_assoc, inside, quotedRun]
    simp only [String.append_assoc]

theorem lowerNode_fragment {node : Node} (fragment : node.kind = .fragment) (config : Config) (depth : Nat)
    (before after : Option Kind) :
    lowerNode config depth before after node = pure (fragmentCode before after node.text) := by
  obtain ⟨kind, text, children, position⟩ := node
  cases fragment
  rw [lowerNode]

/-- Only fragments look at the node after them. -/
theorem lowerNode_lookahead {node : Node} (other : node.kind ≠ .fragment) (config : Config) (depth : Nat)
    (before after after' : Option Kind) :
    lowerNode config depth before after node = lowerNode config depth before after' node := by
  obtain ⟨kind, text, children, position⟩ := node
  cases kind with
  | fragment => exact absurd rfl other
  | _ => simp only [lowerNode]

theorem lowerParts_run {run : List Node} (fragments : IsRun run) (config : Config) (depth : Nat)
    (before : Option Kind) (rest : List Node) :
    lowerParts config depth before (run ++ rest) =
      (runCode before (rest.head?.map Node.kind) run ++ ·) <$>
        lowerParts config depth (some .fragment) rest := by
  induction run generalizing before with
  | nil => exact absurd rfl fragments.nonempty
  | cons first nodes ih =>
    have kind := fragments.fragments first List.mem_cons_self
    rw [List.cons_append, lowerParts, if_pos kind, lowerNode_fragment kind, pure_bind, kind]
    cases nodes with
    | nil => simp [runCode]
    | cons second nodes =>
      rw [ih fragments.tail]
      simp [runCode, String.append_assoc]

theorem lowerSiblings_run {run : List Node} (fragments : IsRun run) (config : Config) (depth : Nat)
    (before : Option Kind) (rest : List Node) :
    lowerSiblings config depth before "" (run ++ rest) =
      (runCode before (rest.head?.map Node.kind) run ++ ·) <$>
        lowerSiblings config depth (some .fragment) "" rest := by
  induction run generalizing before with
  | nil => exact absurd rfl fragments.nonempty
  | cons first nodes ih =>
    have kind := fragments.fragments first List.mem_cons_self
    have nothing : appendText "" = "" := rfl
    have text : first.kind ≠ .literal := by simp [kind]
    rw [List.cons_append, lowerSiblings, if_neg text, lowerNode_fragment kind, pure_bind, kind, nothing]
    cases nodes with
    | nil => simp [runCode]
    | cons second nodes =>
      rw [ih fragments.tail]
      simp [runCode, String.append_assoc]

/-- A string of fragments alone is the string that the run is written as. -/
theorem lowerString_run {run : List Node} (fragments : IsRun run) (config : Config) (depth : Nat) :
    lowerString config depth (some run) = pure (quotedRun run) := by
  have outermost : none ≠ some Kind.fragment := nofun
  have code : runCode none none run = quotedRun run := by
    rw [runCode_eq outermost outermost fragments]
    simp [plusBeside]
  have lowered : lowerParts config depth none run = pure (quotedRun run) := by
    have parts := lowerParts_run fragments config depth none []
    rw [List.append_nil, List.head?_nil, Option.map_none, code] at parts
    rw [parts, lowerParts, map_pure, String.append_empty]
  cases run with
  | nil => exact absurd rfl fragments.nonempty
  | cons first rest =>
    rw [lowerString]
    exact lowered

/-- A run of fragments, or one other part. -/
inductive IsGroup : List Node → Prop
  | run {group : List Node} : IsRun group → IsGroup group
  | single {node : Node} : node.kind ≠ .fragment → IsGroup [node]

theorem IsRun.of_isChain {first second : Node} {nodes : List Node}
    (chain : (first :: second :: nodes).IsChain (sharesQuotes · ·)) : IsRun (first :: second :: nodes) := by
  obtain ⟨share, rest⟩ := List.isChain_cons_cons.mp chain
  obtain ⟨firstKind, secondKind⟩ : first.kind = .fragment ∧ second.kind = .fragment := by
    simpa [sharesQuotes] using share
  refine ⟨List.cons_ne_nil _ _, fun node member => ?_⟩
  rcases List.mem_cons.mp member with rfl | later
  · exact firstKind
  cases nodes with
  | nil => rw [List.mem_singleton.mp later, secondKind]
  | cons third nodes => exact (of_isChain rest).fragments node later

theorem isGroup_of_mem_splitBy {nodes group : List Node} (member : group ∈ nodes.splitBy sharesQuotes) :
    IsGroup group := by
  have chain := List.isChain_of_mem_splitBy member
  have nonempty := List.ne_nil_of_mem_splitBy member
  match group with
  | [] => contradiction
  | [node] =>
    by_cases fragment : node.kind = .fragment
    · exact .run ⟨nonempty, by simp [fragment]⟩
    · exact .single fragment
  | first :: second :: nodes => exact .run (.of_isChain chain)

theorem IsRun.all {run : List Node} (fragments : IsRun run) : run.all (·.kind == .fragment) = true := by
  simpa using fragments.fragments

theorem IsRun.head? {run : List Node} (fragments : IsRun run) : run.head?.map Node.kind = some .fragment := by
  cases run with
  | nil => exact absurd rfl fragments.nonempty
  | cons first nodes => exact congrArg some (fragments.fragments first List.mem_cons_self)

theorem IsGroup.exists_head? {group : List Node} (isGroup : IsGroup group) (rest : List Node) :
    ∃ kind, (group ++ rest).head?.map Node.kind = some kind ∧ (kind = .fragment → IsRun group) := by
  cases isGroup with
  | run fragments =>
    refine ⟨.fragment, ?_, fun _ => fragments⟩
    rw [List.head?_append_of_ne_nil _ fragments.nonempty, fragments.head?]
  | @single node other => exact ⟨node.kind, rfl, fun fragment => absurd fragment other⟩

/-- What stands between a part of kind `before` and the operand of the group after it. -/
def leading (before : Option Kind) (group : List Node) : String :=
  if group.all (·.kind == .fragment) then plusBeside before else joinPart before

/-- What a group writes after its operand, before a part of kind `after`. -/
def trailing (group : List Node) (after : Option Kind) : String :=
  if group.all (·.kind == .fragment) then plusBeside after else ""

theorem lowerParts_group {group : List Node} (isGroup : IsGroup group) {before : Option Kind}
    {rest : List Node} (apartBefore : IsRun group → before ≠ some .fragment)
    (apartAfter : IsRun group → rest.head?.map Node.kind ≠ some .fragment) (config : Config) (depth : Nat) :
    lowerParts config depth before (group ++ rest) = (do
      let operand ← operandCode config depth group
      let code ← lowerParts config depth (group.head?.map Node.kind) rest
      pure (leading before group ++ operand ++ trailing group (rest.head?.map Node.kind) ++ code)) := by
  cases isGroup with
  | run fragments =>
    rw [lowerParts_run fragments, runCode_eq (apartBefore fragments) (apartAfter fragments) fragments,
      operandCode, if_pos fragments.all, leading, if_pos fragments.all, trailing, if_pos fragments.all,
      fragments.head?, pure_bind, map_eq_pure_bind]
  | @single node other =>
    have outside : ¬ [node].all (·.kind == .fragment) = true := by simpa using other
    rw [operandCode, if_neg outside, leading, if_neg outside, trailing, if_neg outside,
      lowerSequence_singleton, List.singleton_append, lowerParts, if_neg other]
    simp only [pure_bind, String.append_empty, List.head?_cons, Option.map_some]

/-- There is one plus sign between a group and the next one. -/
theorem trailing_leading {group next : List Node} (isGroup : IsGroup group) (isNext : IsGroup next)
    (apart : ¬ (IsRun group ∧ IsRun next)) (kind : Kind) :
    trailing group (some kind) ++ leading (group.head?.map Node.kind) next = "+" := by
  cases isGroup with
  | run fragments =>
    cases isNext with
    | run others => exact absurd ⟨fragments, others⟩ apart
    | single other => simp [trailing, leading, fragments.all, fragments.head?, other, plusBeside, joinPart]
  | @single node other =>
    have joined : joinPart (some node.kind) = "+" := by
      cases kind : node.kind with
      | fragment => exact absurd kind other
      | _ => rfl
    simp [trailing, leading, other, plusBeside, joined]

theorem lowerParts_groups (config : Config) (depth : Nat) (groups : List (List Node)) :
    ∀ {before : Option Kind} {group : List Node}, (∀ group' ∈ group :: groups, IsGroup group') →
      (group :: groups).IsChain (fun first second => ¬ (IsRun first ∧ IsRun second)) →
      (IsRun group → before ≠ some .fragment) →
    lowerParts config depth before (group ++ groups.flatten) =
      (fun operands => leading before group ++ "+".intercalate operands) <$>
        (group :: groups).mapM (operandCode config depth) := by
  induction groups with
  | nil =>
    intro before group isGroup _ apartBefore
    rw [List.flatten_nil, lowerParts_group (isGroup group List.mem_cons_self) apartBefore (by simp)]
    have nothing : trailing group none = "" := by
      rw [trailing]
      split <;> rfl
    simp [lowerParts, nothing]
  | cons next groups ih =>
    intro before group isGroup apart apartBefore
    obtain ⟨here, others⟩ := List.forall_mem_cons.mp isGroup
    obtain ⟨apartHere, apartOthers⟩ := List.isChain_cons_cons.mp apart
    have isNext := others next List.mem_cons_self
    obtain ⟨kind, first, ofFragment⟩ := isNext.exists_head? groups.flatten
    have apartAfter : IsRun group → (next ++ groups.flatten).head?.map Node.kind ≠ some .fragment := by
      intro fragments same
      exact apartHere ⟨fragments, ofFragment (Option.some.inj (first.symm.trans same))⟩
    have apartNext : IsRun next → group.head?.map Node.kind ≠ some .fragment := by
      intro fragments same
      obtain ⟨_, head, ofFragment⟩ := here.exists_head? []
      rw [List.append_nil] at head
      exact apartHere ⟨ofFragment (Option.some.inj (head.symm.trans same)), fragments⟩
    rw [List.flatten_cons, lowerParts_group here apartBefore apartAfter, first,
      ih others apartOthers apartNext]
    have joined : ∀ operand others,
        leading before group ++ operand ++ trailing group (some kind) ++
          (leading (group.head?.map Node.kind) next ++ others) =
        leading before group ++ (operand ++ "+" ++ others) := by
      intro operand others
      rw [← trailing_leading here isNext apartHere kind]
      simp only [String.append_assoc]
    simp only [List.mapM_cons, map_eq_pure_bind, bind_assoc, pure_bind, String.intercalate_cons_cons,
      joined]

theorem apart_splitBy (nodes : List Node) :
    (nodes.splitBy sharesQuotes).IsChain fun first second => ¬ (IsRun first ∧ IsRun second) := by
  refine (List.isChain_getLast_head_splitBy sharesQuotes nodes).imp ?_
  rintro first second ⟨presentFirst, presentSecond, apart⟩ ⟨run, run'⟩
  have last := run.fragments _ (List.getLast_mem presentFirst)
  have head := run'.fragments _ (List.head_mem presentSecond)
  simp [sharesQuotes, last, head] at apart

theorem leading_none {group rest : List Node} (isGroup : IsGroup group) {kind : Kind}
    (head : (group ++ rest).head?.map Node.kind = some kind) :
    leading none group = if kind = .fragment then "" else "''+" := by
  cases isGroup with
  | run fragments =>
    rw [List.head?_append_of_ne_nil _ fragments.nonempty] at head
    cases fragments.head?.symm.trans head
    rw [leading, if_pos fragments.all]
    rfl
  | single other =>
    cases head
    simp [leading, other, joinPart]

/-- The code of a string is its operands with plus signs between them. A string that starts with
another part than a fragment has the empty string as its first operand. -/
theorem lowerString_operands (config : Config) (depth : Nat) (first : Node) (rest : List Node) :
    lowerString config depth (some (first :: rest)) =
      (fun operands => "+".intercalate ((if first.kind = .fragment then [] else ["''"]) ++ operands)) <$>
        ((first :: rest).splitBy sharesQuotes).mapM (operandCode config depth) := by
  have isGroup : ∀ group ∈ (first :: rest).splitBy sharesQuotes, IsGroup group :=
    fun _ => isGroup_of_mem_splitBy
  have apart := apart_splitBy (first :: rest)
  have whole := List.flatten_splitBy sharesQuotes (first :: rest)
  cases groups : (first :: rest).splitBy sharesQuotes with
  | nil => simp at groups
  | cons group others =>
    rw [groups] at isGroup apart whole
    rw [List.flatten_cons] at whole
    have head : (group ++ others.flatten).head?.map Node.kind = some first.kind := by
      rw [whole]
      rfl
    rw [lowerString, ← whole, lowerParts_groups config depth others isGroup apart (by simp),
      leading_none (isGroup group List.mem_cons_self) head, List.mapM_cons]
    split <;> simp

theorem lowerSiblings_pending {nodes : List Node} (text : nodes.head?.map Node.kind ≠ some .literal)
    (config : Config) (depth : Nat) (before : Option Kind) (run : String) :
    lowerSiblings config depth before run nodes =
      (appendText run ++ ·) <$> lowerSiblings config depth before "" nodes := by
  have nothing : appendText "" = "" := rfl
  cases nodes with
  | nil => simp [lowerSiblings, nothing]
  | cons node nodes =>
    have other : node.kind ≠ .literal := fun literal => text (congrArg some literal)
    rw [lowerSiblings, if_neg other, lowerSiblings, if_neg other, nothing]
    simp only [map_eq_pure_bind, bind_assoc, pure_bind, String.empty_append, String.append_assoc]

theorem lowerSiblings_append {left right : List Node} (apart : ∀ node ∈ left.getLast?, node.kind ≠ .fragment)
    (text : right.head?.map Node.kind ≠ some .literal) (config : Config) (depth : Nat)
    (before : Option Kind) (run : String) :
    lowerSiblings config depth before run (left ++ right) = (do
      let code ← lowerSiblings config depth before run left
      let rest ← lowerSiblings config depth ((left.getLast?.map Node.kind).or before) "" right
      pure (code ++ rest)) := by
  induction left generalizing before run with
  | nil =>
    rw [List.nil_append, lowerSiblings_pending text, map_eq_pure_bind]
    simp [lowerSiblings]
  | cons node left ih =>
    have last : ((node :: left).getLast?.map Node.kind).or before =
        (left.getLast?.map Node.kind).or (some node.kind) := by
      rw [List.getLast?_cons]
      cases left.getLast? <;> rfl
    have apartLeft : ∀ node ∈ left.getLast?, node.kind ≠ .fragment := by
      intro other member
      exact apart other (by rw [List.getLast?_cons, member]; rfl)
    rw [List.cons_append, lowerSiblings, lowerSiblings, last]
    split
    · rename_i literal
      rw [ih apartLeft, literal]
    · have ahead : lowerNode config depth before ((left ++ right).head?.map Node.kind) node =
          lowerNode config depth before (left.head?.map Node.kind) node := by
        cases left with
        | nil => exact lowerNode_lookahead (apart node rfl) ..
        | cons next left => rfl
      rw [ahead, ih apartLeft]
      simp only [bind_assoc, pure_bind, String.append_assoc]

/-- A run of fragments that goes on neither to the left nor to the right of it. -/
structure MaximalRun (left run right : List Node) : Prop where
  isRun : IsRun run
  starts : ∀ node ∈ left.getLast?, node.kind ≠ .fragment
  stops : ∀ node ∈ right.head?, node.kind ≠ .fragment

theorem lowerSequence_run {left run right : List Node} (maximal : MaximalRun left run right)
    (config : Config) (depth : Nat) :
    lowerSequence config depth (left ++ run ++ right) = (do
      let before ← lowerSequence config depth left
      let after ← lowerSiblings config depth (some .fragment) "" right
      pure (before ++ (if left.isEmpty then "" else "+") ++ quotedRun run ++
        (if right.isEmpty then "" else "+") ++ after)) := by
  have head : (run ++ right).head?.map Node.kind ≠ some .literal := by
    rw [List.head?_append_of_ne_nil _ maximal.isRun.nonempty, maximal.isRun.head?]
    decide
  have apartBefore : (left.getLast?.map Node.kind).or none ≠ some .fragment := by
    rw [Option.or_none, Ne, Option.map_eq_some_iff]
    rintro ⟨node, member, fragment⟩
    exact maximal.starts node member fragment
  have apartAfter : right.head?.map Node.kind ≠ some .fragment := by
    rw [Ne, Option.map_eq_some_iff]
    rintro ⟨node, member, fragment⟩
    exact maximal.stops node member fragment
  have plusBefore : plusBeside ((left.getLast?.map Node.kind).or none) = if left.isEmpty then "" else "+" := by
    cases left with
    | nil => rfl
    | cons node left =>
      rw [List.getLast?_cons]
      rfl
  have plusAfter : plusBeside (right.head?.map Node.kind) = if right.isEmpty then "" else "+" := by
    cases right <;> rfl
  rw [List.append_assoc, lowerSequence, lowerSiblings_append maximal.starts head,
    lowerSiblings_run maximal.isRun, runCode_eq apartBefore apartAfter maximal.isRun, plusBefore, plusAfter]
  simp only [lowerSequence, map_eq_pure_bind, bind_assoc, pure_bind, String.append_assoc]

/-- A string is the concatenation of its operands: the runs of its fragments and its other parts, each
lowered one level deeper, and the empty string before a first part that is no fragment. In a sequence
of siblings too a run of fragments is one string, with a plus sign towards each neighbour. -/
theorem fragment_runs_become_operands (config : Config) (depth : Nat) :
    (∀ (before after : Option Kind) (text : String) (position : Nat) (first : Node) (rest : List Node),
      lowerNode config depth before after ⟨.string, text, some (first :: rest), position⟩ =
        (fun operands => "+".intercalate ((if first.kind = .fragment then [] else ["''"]) ++ operands)) <$>
          ((first :: rest).splitBy sharesQuotes).mapM (operandCode config depth)) ∧
    ∀ left run right : List Node, MaximalRun left run right →
      lowerSequence config depth (left ++ run ++ right) = (do
        let before ← lowerSequence config depth left
        let after ← lowerSiblings config depth (some .fragment) "" right
        pure (before ++ (if left.isEmpty then "" else "+") ++ quotedRun run ++
          (if right.isEmpty then "" else "+") ++ after)) := by
  constructor
  · intro before after text position first rest
    rw [lowerNode]
    exact lowerString_operands config depth first rest
  · intro left run right maximal
    exact lowerSequence_run maximal config depth

theorem fragment_runs_become_operands_mixed :
    (lowerNode {} 1 none none (.string [.reference [.verbatim "x"], .fragment "it's ", .fragment "a",
      .verbatim "y", .verbatim "z"])).text? [] = some "''+x+'it\\'s a'+y+z" ∧
    MaximalRun [.literal "n"] [.fragment "a", .fragment "b"] [.verbatim "z"] ∧
    (lowerSequence {} 0 ([.literal "n"] ++ [.fragment "a", .fragment "b"] ++ [.verbatim "z"])).text? [] =
      some "$out+='n';+'ab'+z" := by
  have maximal : MaximalRun [.literal "n"] [.fragment "a", .fragment "b"] [.verbatim "z"] := by
    refine ⟨⟨by simp, ?_⟩, ?_, ?_⟩ <;> decide
  refine ⟨?_, maximal, ?_⟩
  · rw [Node.string, (fragment_runs_become_operands {} 1).1]
    decide +kernel
  · rw [(fragment_runs_become_operands {} 0).2 _ _ _ maximal]
    decide +kernel

end TemplateCompiler.Lowering
