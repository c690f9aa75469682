import TemplateCompiler.Proofs.AccessGrammar
import TemplateCompiler.Proofs.Reached

namespace TemplateCompiler

/-- The code holds the start of a statement that appends to the output. -/
def Appends (code : String) : Prop :=
  (Script.outputName ++ "+=").toList <:+: code.toList

instance (code : String) : Decidable (Appends code) :=
  inferInstanceAs (Decidable (_ <:+: _))

/-- Every dollar sign has an `s` after it, as the one of the helper for quiet references has. -/
inductive DollarsShow : List Char → Prop
  | nil : DollarsShow []
  | cons {c : Char} {cs : List Char} : (c = '$' → cs.head? = some 's') → DollarsShow cs → DollarsShow (c :: cs)

namespace DollarsShow

theorem of_not_mem {cs : List Char} (absent : '$' ∉ cs) : DollarsShow cs := by
  induction cs with
  | nil => exact .nil
  | cons c cs ih =>
    rw [List.mem_cons, not_or] at absent
    exact .cons (fun dollar => absurd dollar.symm absent.1) (ih absent.2)

theorem append {first second : List Char} (here : DollarsShow first) (later : DollarsShow second) :
    DollarsShow (first ++ second) := by
  induction here with
  | nil => exact later
  | cons next _ ih =>
    rw [List.cons_append]
    refine .cons (fun dollar => ?_) ih
    rw [List.head?_append, next dollar, Option.some_or]

theorem right {first second : List Char} (whole : DollarsShow (first ++ second)) : DollarsShow second := by
  induction first with
  | nil => exact whole
  | cons c first ih =>
    cases whole with
    | cons _ later => exact ih later

/-- White space after a text is not what follows a dollar sign of it. -/
theorem left {first spaces : List Char} (blank : ∀ c ∈ spaces, Text.isWhiteSpace c = true)
    (whole : DollarsShow (first ++ spaces)) : DollarsShow first := by
  induction first with
  | nil => exact .nil
  | cons c first ih =>
    cases whole with
    | cons next later =>
      refine .cons (fun dollar => ?_) (ih later)
      cases first with
      | nil => exact absurd (blank 's' (List.mem_of_mem_head? (next dollar))) (by decide)
      | cons d first => exact next dollar

theorem trim {expression : String} (shows : DollarsShow expression.toList) :
    DollarsShow (Text.trim expression).toList := by
  obtain ⟨leading, trailing, split, _, blank⟩ := Text.exists_space_around_trim expression
  rw [split] at shows
  exact shows.right.left blank

theorem not_appends {code : String} (shows : DollarsShow code.toList) : ¬ Appends code := by
  rintro ⟨before, after, split⟩
  rw [← split, List.append_assoc] at shows
  cases shows.right with
  | cons next _ => cases next rfl

end DollarsShow

namespace Script.Reader

theorem dollar_not_mem_mark (reader : Reader) (c : Char) (next : Option Char) : '$' ∉ reader.mark c next := by
  unfold mark accessMark
  split
  · split <;> decide
  · decide

theorem dollarsShow_navigate (reader : Reader) {cs : List Char} (shows : DollarsShow cs) :
    DollarsShow (reader.navigate cs) := by
  induction shows generalizing reader with
  | nil => exact .nil
  | @cons c cs next _ ih =>
    rw [navigate_cons]
    refine (DollarsShow.of_not_mem (reader.dollar_not_mem_mark c _)).append (.cons (fun dollar => ?_) (ih _))
    obtain ⟨rest, rfl⟩ := List.head?_eq_some_iff.mp (next dollar)
    rw [navigate_cons, mark_plain (by decide)]
    rfl

/-- Characters that start no access are written side by side as they are read. -/
theorem prefix_navigate (reader : Reader) {word cs : List Char}
    (plain : ∀ c ∈ word, c ≠ '.' ∧ c ≠ '[' ∧ c ≠ '(') (starts : word <+: cs) : word <+: reader.navigate cs := by
  induction word generalizing reader cs with
  | nil => exact List.nil_prefix
  | cons c word ih =>
    obtain ⟨plainHere, plainLater⟩ := List.forall_mem_cons.mp plain
    obtain ⟨rest, rfl⟩ := starts
    rw [List.cons_append, navigate_cons, mark_plain plainHere, List.nil_append, List.cons_prefix_cons]
    exact ⟨rfl, ih _ plainLater (List.prefix_append word rest)⟩

theorem infix_navigate (reader : Reader) {word cs : List Char}
    (plain : ∀ c ∈ word, c ≠ '.' ∧ c ≠ '[' ∧ c ≠ '(') (holds : word <:+: cs) : word <:+: reader.navigate cs := by
  induction cs generalizing reader with
  | nil => exact holds
  | cons c cs ih =>
    rcases List.infix_cons_iff.mp holds with starts | later
    · exact (reader.prefix_navigate plain starts).isInfix
    · rw [navigate_cons]
      exact (ih _ later).trans ((List.suffix_cons c _).isInfix.trans (List.suffix_append _ _).isInfix)

end Script.Reader

/-- White space around a text holds no part of a word. -/
theorem infix_of_spaces_append {word spaces cs : List Char} (present : word ≠ [])
    (visible : ∀ c ∈ word, Text.isWhiteSpace c = false) (blank : ∀ c ∈ spaces, Text.isWhiteSpace c = true)
    (holds : word <:+: spaces ++ cs) : word <:+: cs := by
  induction spaces with
  | nil => exact holds
  | cons space spaces ih =>
    obtain ⟨blankHere, blankLater⟩ := List.forall_mem_cons.mp blank
    rcases List.infix_cons_iff.mp holds with ⟨rest, split⟩ | later
    · obtain ⟨c, word, rfl⟩ := List.exists_cons_of_ne_nil present
      have same : c = space := (List.cons.inj split).1
      have visibleHere := visible c List.mem_cons_self
      rw [same, blankHere] at visibleHere
      cases visibleHere
    · exact ih blankLater later

theorem infix_of_append_spaces {word spaces cs : List Char} (present : word ≠ [])
    (visible : ∀ c ∈ word, Text.isWhiteSpace c = false) (blank : ∀ c ∈ spaces, Text.isWhiteSpace c = true)
    (holds : word <:+: cs ++ spaces) : word <:+: cs := by
  rw [← List.reverse_infix, List.reverse_append] at holds
  rw [← List.reverse_infix]
  refine infix_of_spaces_append (by simpa using present) (fun c member => ?_) (fun c member => ?_) holds
  · exact visible c (List.mem_reverse.mp member)
  · exact blank c (List.mem_reverse.mp member)

namespace Appends

theorem around {code : String} (appends : Appends code) (before after : String) :
    Appends (before ++ code ++ after) := by
  have inside : code.toList <:+: (before ++ code ++ after).toList := by
    rw [String.toList_append, String.toList_append]
    exact List.infix_append _ _ _
  exact appends.trans inside

theorem left {code : String} (appends : Appends code) (after : String) : Appends (code ++ after) := by
  have whole := appends.around "" after
  rwa [String.empty_append] at whole

theorem right {code : String} (appends : Appends code) (before : String) : Appends (before ++ code) := by
  have whole := appends.around before ""
  rwa [String.append_empty] at whole

theorem trim {expression : String} (appends : Appends expression) : Appends (Text.trim expression) := by
  obtain ⟨leading, trailing, split, blank, blank'⟩ := Text.exists_space_around_trim expression
  have visible : ∀ c ∈ (Script.outputName ++ "+=").toList, Text.isWhiteSpace c = false := by
    intro c member
    have all : (Script.outputName ++ "+=").toList.all (!Text.isWhiteSpace ·) = true := by decide
    simpa using List.all_eq_true.mp all c member
  rw [Appends, split] at appends
  exact infix_of_append_spaces (by decide) visible blank' (infix_of_spaces_append (by decide) visible blank appends)

theorem safeNavigation {expression : String} (appends : Appends expression) :
    Appends (Script.safeNavigation expression) := by
  have plain : ∀ c ∈ (Script.outputName ++ "+=").toList, c ≠ '.' ∧ c ≠ '[' ∧ c ≠ '(' := by
    intro c member
    have all : (Script.outputName ++ "+=").toList.all (fun c => c != '.' && (c != '[' && c != '(')) = true := by decide
    simpa using List.all_eq_true.mp all c member
  rw [Appends, Script.safeNavigation, String.toList_ofList]
  exact Script.Reader.infix_navigate {} plain appends

end Appends

/-- The code appends to the output exactly if the template's own text is in it. Otherwise no dollar
sign of it starts an append, whatever code is put beside it. -/
structure Tells (literal : Prop) (code : String) : Prop where
  appends : literal → Appends code
  bare : ¬ literal → DollarsShow code.toList

namespace Tells

variable {literal other : Prop} {code next : String}

theorem appends_iff (tells : Tells literal code) : Appends code ↔ literal := by
  refine ⟨fun appends => ?_, tells.appends⟩
  by_contra absent
  exact (tells.bare absent).not_appends appends

theorem congr (tells : Tells literal code) (same : literal ↔ other) : Tells other code :=
  ⟨fun holds => tells.appends (same.mpr holds), fun absent => tells.bare (same.not.mpr absent)⟩

theorem append (here : Tells literal code) (later : Tells other next) : Tells (literal ∨ other) (code ++ next) := by
  constructor
  · rintro (holds | holds)
    · exact (here.appends holds).left next
    · exact (later.appends holds).right code
  · intro absent
    rw [not_or] at absent
    rw [String.toList_append]
    exact (here.bare absent.1).append (later.bare absent.2)

theorem of_plain (plain : '$' ∉ code.toList) : Tells False code :=
  ⟨False.elim, fun _ => .of_not_mem plain⟩

theorem of_text (text : String) : Tells (text ≠ "") (Lowering.appendText text) := by
  unfold Lowering.appendText
  split
  · rename_i empty
    have none : text = "" := String.isEmpty_iff.mp empty
    exact ⟨fun present => absurd none present, fun _ => .nil⟩
  · rename_i present
    have start : Appends (Script.outputName ++ "+='") := by decide
    refine ⟨fun _ => ?_, fun absent => ?_⟩
    · exact (start.left _).left _
    · exact absurd (fun none => present (String.isEmpty_iff.mpr none)) absent

theorem trim (tells : Tells literal code) : Tells literal (Text.trim code) :=
  ⟨fun holds => (tells.appends holds).trim, fun absent => (tells.bare absent).trim⟩

theorem guarded (tells : Tells literal code) : Tells literal (Lowering.guarded code "") := by
  have navigated : Tells literal (Script.safeNavigation code) := by
    refine ⟨fun holds => (tells.appends holds).safeNavigation, fun absent => ?_⟩
    rw [Script.safeNavigation, String.toList_ofList]
    exact Script.Reader.dollarsShow_navigate {} (tells.bare absent)
  have start : Tells False (Script.showName ++ "(()=>(") := by
    refine ⟨False.elim, fun _ => .cons (fun _ => rfl) (.of_not_mem (by decide))⟩
  have ended : Tells False "),'" ∧ Tells False "" ∧ Tells False "')" :=
    ⟨of_plain (by decide), of_plain (by decide), of_plain (by decide)⟩
  have whole := (((start.append navigated).append ended.1).append ended.2.1).append ended.2.2
  exact whole.congr (by simp only [false_or, or_false])

/-- Below the template's own text a reference is its expression, plain or guarded. -/
theorem reference (tells : Tells literal code) {depth : Nat} (inside : depth ≠ 0) (config : Config)
    (before : Option Kind) (kind : Kind) (emission : Emission) :
    Tells literal (Lowering.referenceCode (Lowering.referenceMode config depth before kind) depth code emission).1 := by
  unfold Lowering.referenceMode
  split
  · simpa [Lowering.referenceCode, inside] using tells.guarded
  · simpa [Lowering.referenceCode, inside] using tells

end Tells

/-- Lowering that succeeds gives code that appends to the output exactly if `literal` holds. -/
def Writes (literal : Prop) (action : Lowering String) : Prop :=
  ∀ emission code result, action.run emission = .ok code result → Tells literal code

namespace Writes

variable {literal other : Prop}

theorem of_pure {code : String} (tells : Tells literal code) : Writes literal (pure code) := by
  intro emission code result run
  cases run
  exact tells

theorem congr {action : Lowering String} (writes : Writes literal action) (same : literal ↔ other) :
    Writes other action :=
  fun emission code result run => (writes emission code result run).congr same

/-- An expression, and the reference to it below the template's own text. -/
theorem reference {children : Lowering String} (writes : Writes literal children) {depth : Nat}
    (inside : depth ≠ 0) (config : Config) (before : Option Kind) (kind : Kind) (position : Nat) :
    Writes literal (do
      let expression ← children
      Lowering.lowerReference (Lowering.referenceMode config depth before kind) depth expression position) := by
  intro emission code result run
  obtain ⟨expression, between, start, own⟩ := Lowering.run_bind_eq_ok run
  rw [Lowering.lowerReference_run] at own
  split at own
  · cases own
  · cases own
    exact (writes _ _ _ start).trim.reference inside config before kind between

end Writes

/-- The walk over the siblings comes to text of the template that is not empty. -/
def HoldsText (nodes : List Node) : Prop :=
  ∃ node, Reached nodes node ∧ node.kind = .literal ∧ node.text ≠ ""

theorem holdsText_nil : ¬ HoldsText [] := by
  rintro ⟨node, reached, _⟩
  cases reached with
  | here member => cases member
  | under member => cases member

theorem holdsText_cons (node : Node) (nodes : List Node) :
    HoldsText (node :: nodes) ↔ HoldsText [node] ∨ HoldsText nodes := by
  constructor
  · rintro ⟨text, reached, literal⟩
    cases reached with
    | here member =>
      rcases List.mem_cons.mp member with rfl | later
      · exact .inl ⟨text, .here List.mem_cons_self, literal⟩
      · exact .inr ⟨text, .here later, literal⟩
    | under member passes children inner =>
      rcases List.mem_cons.mp member with rfl | later
      · exact .inl ⟨text, .under List.mem_cons_self passes children inner, literal⟩
      · exact .inr ⟨text, .under later passes children inner, literal⟩
  · rintro (⟨text, reached, literal⟩ | ⟨text, reached, literal⟩)
    · exact ⟨text, reached.of_subset (by simp), literal⟩
    · exact ⟨text, reached.of_subset (List.subset_cons_self node nodes), literal⟩

theorem holdsText_leaf {node : Node} (leaf : ¬ node.PassesWalk) :
    HoldsText [node] ↔ node.kind = .literal ∧ node.text ≠ "" := by
  constructor
  · rintro ⟨text, reached, literal⟩
    cases reached with
    | here member => rwa [← List.mem_singleton.mp member]
    | under member passes _ _ =>
      rw [List.mem_singleton.mp member] at passes
      exact absurd passes leaf
  · exact fun literal => ⟨node, .here List.mem_cons_self, literal⟩

theorem holdsText_parent {kind : Kind} (parent : kind ∈ [.string, .reference, .quietReference]) (text : String)
    (children : Option (List Node)) (position : Nat) :
    HoldsText [⟨kind, text, children, position⟩] ↔ ∃ nodes, children = some nodes ∧ HoldsText nodes := by
  have passes : (⟨kind, text, children, position⟩ : Node).PassesWalk := by
    simp only [List.mem_cons, List.not_mem_nil, or_false] at parent
    rcases parent with rfl | rfl | rfl <;> exact ⟨by simp, by simp [Node.command?]⟩
  constructor
  · rintro ⟨node, reached, literal⟩
    cases reached with
    | here member =>
      rw [List.mem_singleton.mp member] at literal
      have same : kind = .literal := literal.1
      exact absurd (same ▸ parent) (by decide)
    | under member _ below inner =>
      rw [List.mem_singleton.mp member] at below
      exact ⟨_, below, node, inner, literal⟩
  · rintro ⟨nodes, below, node, reached, literal⟩
    exact ⟨node, .under List.mem_cons_self passes below reached, literal⟩

/-- Neither a command nor text of an expression that has a dollar sign. -/
def Node.IsBare (node : Node) : Prop :=
  node.kind ≠ .directive ∧ (node.kind = .verbatim ∨ node.kind = .fragment → '$' ∉ node.text.toList)

instance (node : Node) : Decidable node.IsBare :=
  inferInstanceAs (Decidable (_ ∧ _))

theorem Script.dollar_not_mem_escapeFragmentChars {cs : List Char} (plain : '$' ∉ cs) :
    '$' ∉ escapeFragmentChars cs := by
  fun_induction escapeFragmentChars cs with
  | case1 => exact plain
  | case2 => decide
  | case3 c cs ih =>
    simp only [List.mem_cons, not_or] at plain ⊢
    exact ⟨plain.1, plain.2.1, ih plain.2.2⟩
  | case4 c cs alone paired ih =>
    simp only [List.mem_cons, not_or] at plain
    have bare : '$' ∉ escapeBareChar c := by
      unfold escapeBareChar
      grind
    simp only [List.mem_append, not_or]
    exact ⟨bare, ih plain.2⟩

theorem Tells.fragment {text : String} (plain : '$' ∉ text.toList) (before after : Option Kind) :
    Tells False (Lowering.fragmentCode before after text) := by
  have escaped : '$' ∉ (Script.escapeFragment text).toList := by
    rw [Script.escapeFragment, String.toList_ofList]
    exact Script.dollar_not_mem_escapeFragmentChars plain
  refine Tells.of_plain ?_
  unfold Lowering.fragmentCode
  simp only [String.toList_append, List.mem_append, not_or]
  refine ⟨⟨?_, escaped⟩, ?_⟩
  · split <;> decide
  · split <;> decide

theorem Tells.joined {literal : Prop} {code : String} (tells : Tells literal code) (before : Option Kind) :
    Tells literal (Lowering.joinPart before ++ code) := by
  have joint : Tells False (Lowering.joinPart before) := by
    refine Tells.of_plain ?_
    unfold Lowering.joinPart
    split <;> decide
  exact (joint.append tells).congr (by simp)

mutual

theorem Node.writes (config : Config) {depth : Nat} (inside : depth ≠ 0) (before after : Option Kind) :
    ∀ node : Node, (∀ other ∈ node.subtree, other.IsBare) →
      Writes (HoldsText [node]) (Lowering.lowerNode config depth before after node)
  | ⟨.literal, text, _, _⟩, _ => by
    refine .of_pure ((Tells.of_text text).congr ?_)
    rw [holdsText_leaf (fun passes => passes.1 (by simp))]
    simp
  | ⟨.verbatim, text, _, _⟩, bare => by
    have plain := (bare _ List.mem_cons_self).2 (.inl rfl)
    refine .of_pure ((Tells.of_plain plain).congr ?_)
    rw [holdsText_leaf (fun passes => passes.1 (by simp))]
    simp
  | ⟨.fragment, text, _, _⟩, bare => by
    have plain := (bare _ List.mem_cons_self).2 (.inr rfl)
    refine .of_pure ((Tells.fragment plain before after).congr ?_)
    rw [holdsText_leaf (fun passes => passes.1 (by simp))]
    simp
  | ⟨.string, _, children, _⟩, bare => by
    have inner := writes_string config inside children fun other below => bare other (List.mem_cons_of_mem _ below)
    exact inner.congr (holdsText_parent (by decide) ..).symm
  | ⟨.reference, _, children, position⟩, bare => by
    have inner := writes_children config (Nat.succ_ne_zero depth) children
      fun other below => bare other (List.mem_cons_of_mem _ below)
    have own := inner.reference inside config before .reference position
    exact own.congr (holdsText_parent (by decide) ..).symm
  | ⟨.quietReference, _, children, position⟩, bare => by
    have inner := writes_children config (Nat.succ_ne_zero depth) children
      fun other below => bare other (List.mem_cons_of_mem _ below)
    have own := inner.reference inside config before .quietReference position
    exact own.congr (holdsText_parent (by decide) ..).symm
  | ⟨.directive, _, _, _⟩, bare => absurd rfl (bare _ List.mem_cons_self).1

theorem writes_siblings (config : Config) {depth : Nat} (inside : depth ≠ 0) (before : Option Kind) (text : String) :
    ∀ nodes : List Node, (∀ other ∈ subtrees nodes, other.IsBare) →
      Writes (text ≠ "" ∨ HoldsText nodes) (Lowering.lowerSiblings config depth before text nodes)
  | [], _ => .of_pure ((Tells.of_text text).congr (by simp [holdsText_nil]))
  | node :: nodes, bare => by
    have bareHere : ∀ other ∈ node.subtree, other.IsBare :=
      fun other member => bare other (List.mem_append_left _ member)
    have bareLater : ∀ other ∈ subtrees nodes, other.IsBare :=
      fun other member => bare other (List.mem_append_right _ member)
    rw [Lowering.lowerSiblings, holdsText_cons]
    split
    · rename_i literal
      have run := writes_siblings config inside (some .literal) (text ++ node.text) nodes bareLater
      refine run.congr ?_
      rw [holdsText_leaf (fun passes => passes.1 (by simp [literal])), and_iff_right literal, ← or_assoc,
        Ne, String.append_eq_empty_iff, not_and_or]
    · intro emission code result run
      obtain ⟨own, between, start, rest⟩ := Lowering.run_bind_eq_ok run
      obtain ⟨later, final, rest, last⟩ := Lowering.run_bind_eq_ok rest
      cases last
      have here := node.writes config inside before (nodes.head?.map Node.kind) bareHere _ _ _ start
      have tail := writes_siblings config inside (some node.kind) "" nodes bareLater _ _ _ rest
      exact (((Tells.of_text text).append here).append tail).congr (by simp [or_assoc])

theorem writes_children (config : Config) {depth : Nat} (inside : depth ≠ 0) :
    ∀ children : Option (List Node), (∀ other ∈ childSubtrees children, other.IsBare) →
      Writes (∃ nodes, children = some nodes ∧ HoldsText nodes) (Lowering.lowerChildren config depth children)
  | none, _ => .of_pure ((Tells.of_plain (by decide)).congr (by simp))
  | some nodes, bare => (writes_siblings config inside none "" nodes bare).congr (by simp)

theorem writes_parts (config : Config) {depth : Nat} (inside : depth ≠ 0) (before : Option Kind) :
    ∀ nodes : List Node, (∀ other ∈ subtrees nodes, other.IsBare) →
      Writes (HoldsText nodes) (Lowering.lowerParts config depth before nodes)
  | [], _ => .of_pure ((Tells.of_plain (by decide)).congr (by simp [holdsText_nil]))
  | node :: nodes, bare => by
    have bareHere : ∀ other ∈ node.subtree, other.IsBare :=
      fun other member => bare other (List.mem_append_left _ member)
    have bareLater : ∀ other ∈ subtrees nodes, other.IsBare :=
      fun other member => bare other (List.mem_append_right _ member)
    intro emission code result run
    rw [holdsText_cons]
    rw [Lowering.lowerParts] at run
    split at run
    · obtain ⟨own, between, start, rest⟩ := Lowering.run_bind_eq_ok run
      obtain ⟨later, final, rest, last⟩ := Lowering.run_bind_eq_ok rest
      cases last
      have here := node.writes config inside before (nodes.head?.map Node.kind) bareHere _ _ _ start
      exact here.append (writes_parts config inside (some node.kind) nodes bareLater _ _ _ rest)
    · obtain ⟨own, between, start, rest⟩ := Lowering.run_bind_eq_ok run
      obtain ⟨joined, _, unchanged, rest⟩ := Lowering.run_bind_eq_ok rest
      obtain ⟨later, final, rest, last⟩ := Lowering.run_bind_eq_ok rest
      cases unchanged
      cases last
      have here := node.writes config (Nat.succ_ne_zero depth) none none bareHere _ _ _ start
      exact (here.joined before).append (writes_parts config inside (some node.kind) nodes bareLater _ _ _ rest)

theorem writes_string (config : Config) {depth : Nat} (inside : depth ≠ 0) :
    ∀ children : Option (List Node), (∀ other ∈ childSubtrees children, other.IsBare) →
      Writes (∃ nodes, children = some nodes ∧ HoldsText nodes) (Lowering.lowerString config depth children)
  | none, _ => .of_pure ((Tells.of_plain (by decide)).congr (by simp))
  | some [], _ => .of_pure ((Tells.of_plain (by decide)).congr (by simp [holdsText_nil]))
  | some (node :: nodes), bare => (writes_parts config inside none (node :: nodes) bare).congr (by simp)

end

/-- An expression appends to the output exactly if text of the template that is not empty stands
in it. Its references, strings and syntax never do. -/
theorem expressions_append_text {config : Config} {depth : Nat} {nodes : List Node} {emission result : Emission}
    {code : String} (inside : 1 ≤ depth) (bare : ∀ node ∈ subtrees nodes, node.IsBare)
    (run : (Lowering.lowerSequence config depth nodes).run emission = .ok code result) :
    Appends code ↔ HoldsText nodes := by
  have tells := writes_siblings config (Nat.one_le_iff_ne_zero.mp inside) none "" nodes bare emission code result run
  rw [tells.appends_iff]
  simp

/-- References, a string and syntax, with text that is empty. -/
def bareParts : List Node :=
  [.verbatim "a+", .quietReference [.verbatim "b.c"], .literal "",
    .string [.fragment "it's ", .reference [.verbatim "d"]]]

theorem expressions_append_text_bare :
    (∀ node ∈ subtrees bareParts, node.IsBare) ∧
    (Lowering.lowerSequence {} 1 bareParts).text? [] = some "a+$show(()=>(b?.c),'')'it\\'s '+d" ∧
    ¬ HoldsText bareParts ∧ ¬ Appends "a+$show(()=>(b?.c),'')'it\\'s '+d" := by
  have bare : ∀ node ∈ subtrees bareParts, node.IsBare := by decide +kernel
  have text : (Lowering.lowerSequence {} 1 bareParts).text? [] = some "a+$show(()=>(b?.c),'')'it\\'s '+d" := by
    decide +kernel
  obtain ⟨result, run⟩ := Lowering.exists_run_of_text? text
  have silent : ¬ Appends "a+$show(()=>(b?.c),'')'it\\'s '+d" := by decide +kernel
  exact ⟨bare, text, (expressions_append_text (Nat.le_refl 1) bare run).not.mp silent, silent⟩

/-- Text in an expression is appended to the output, as it is in the template itself. -/
theorem expressions_append_inner_text :
    (∀ node ∈ subtrees [Node.literal "x"], node.IsBare) ∧
    (Lowering.lowerSequence {} 1 [.literal "x"]).text? [] = some "$out+='x';" ∧
    Appends "$out+='x';" ∧
    programOf {} [.reference [.literal "x"]] = .ok ⟨[], false, true, "$out+=$text($out+='x';);"⟩ := by
  decide +kernel

end TemplateCompiler
