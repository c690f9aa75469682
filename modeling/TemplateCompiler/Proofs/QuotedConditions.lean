import TemplateCompiler.Proofs.AssignmentText
import TemplateCompiler.Proofs.FragmentText

namespace TemplateCompiler

open Script (quotedPieces)

/-- A line feed stays in a fragment only behind a backslash. -/
theorem Script.lineFeed_mem_escapeFragmentChars {cs : List Char} :
    '\n' ∈ escapeFragmentChars cs ↔ .pair '\n' ∈ quotedPieces cs := by
  fun_induction escapeFragmentChars cs with
  | case1 => simp [quotedPieces]
  | case2 => simp [quotedPieces]
  | case3 c cs ih => simp [quotedPieces, ih, eq_comm]
  | case4 c cs alone paired ih =>
    have plain := ne_backslash_of_unpaired alone paired
    have replaced : '\n' ∉ escapeBareChar c := by
      unfold escapeBareChar
      grind
    simp [quotedPieces_bare plain, replaced, ih]

/-- The text holds a line feed that the backslash before it hides. -/
def EscapesLineFeed (text : String) : Prop :=
  .pair '\n' ∈ quotedPieces text.toList

instance (text : String) : Decidable (EscapesLineFeed text) :=
  inferInstanceAs (Decidable (_ ∈ _))

theorem lineFeed_mem_runContent {run : List Node} :
    '\n' ∈ runContent run ↔ ∃ part ∈ run, EscapesLineFeed part.text := by
  rw [runContent, List.mem_flatMap]
  simp only [Script.lineFeed_mem_escapeFragmentChars, EscapesLineFeed]

namespace Lowering

/-- Text without quotes around a line stays as it is. -/
theorem outsideSpan_around {quote : Char} {left right : List Char} (plain : quote ∉ left)
    (plain' : quote ∉ right) (line : List Char) :
    outsideSpan quote quote (left ++ line ++ right) = left ++ outsideSpan quote quote line ++ right := by
  have count : (left ++ line ++ right).count quote = line.count quote := by
    simp [List.count_eq_zero_of_not_mem plain, List.count_eq_zero_of_not_mem plain']
  have ordered_iff : ∀ cs : List Char, [quote, quote].Sublist cs ↔ 2 ≤ cs.count quote :=
    fun cs => List.replicate_sublist_iff (n := 2)
  by_cases ordered : [quote, quote].Sublist line
  · obtain ⟨before, inside, after, span⟩ := exists_span ordered
    have around : Span quote quote (left ++ line ++ right) (left ++ before) inside (after ++ right) := by
      refine ⟨by simp [span.whole], ?_, ?_⟩
      · simpa using ⟨plain, span.first⟩
      · simpa using ⟨span.last, plain'⟩
    rw [around.outsideSpan, span.outsideSpan]
    simp
  · have unordered : ¬ [quote, quote].Sublist (left ++ line ++ right) := by
      rwa [ordered_iff, count, ← ordered_iff]
    rw [outsideSpan, if_neg unordered, outsideSpan, if_neg ordered]

theorem outsideQuotes_before {left : List Char} (plain : '\'' ∉ left) (text : List Char) :
    outsideQuotes (left ++ text) = left ++ outsideQuotes text := by
  have spared : ∀ {left : List Char}, '\'' ∉ left → ∀ line,
      outsideSpan '\'' '\'' (left ++ line) = left ++ outsideSpan '\'' '\'' line := by
    intro left plain line
    simpa using outsideSpan_around plain List.not_mem_nil line
  induction left using lines_induction with
  | line left single =>
    induction text using lines_induction with
    | line line single' =>
      have joined : '\n' ∉ left ++ line := by simpa using ⟨single, single'⟩
      rw [outsideQuotes, onLines_line joined, onLines_line single', spared plain]
    | cons line rest single' _ =>
      have joined : '\n' ∉ left ++ line := by simpa using ⟨single, single'⟩
      rw [outsideQuotes, ← List.append_assoc, onLines_cons joined, onLines_cons single', spared plain,
        List.append_assoc]
  | cons line rest single ih =>
    have plainLine : '\'' ∉ line := fun member => plain (List.mem_append_left _ member)
    have plainRest : '\'' ∉ rest := fun member => plain (by simp [member])
    have whole := spared plainLine []
    have nothing : outsideSpan '\'' '\'' [] = [] := rfl
    rw [nothing, List.append_nil] at whole
    have later := ih plainRest
    rw [outsideQuotes] at later ⊢
    rw [List.append_assoc, List.cons_append, onLines_cons single, later, whole]
    simp

theorem outsideQuotes_after {right : List Char} (plain : '\'' ∉ right) (text : List Char) :
    outsideQuotes (text ++ right) = outsideQuotes text ++ right := by
  have spared : ∀ {right : List Char}, '\'' ∉ right → ∀ line,
      outsideSpan '\'' '\'' (line ++ right) = outsideSpan '\'' '\'' line ++ right := by
    intro right plain line
    simpa using outsideSpan_around List.not_mem_nil plain line
  induction text using lines_induction with
  | line text single =>
    induction right using lines_induction with
    | line right single' =>
      have joined : '\n' ∉ text ++ right := by simpa using ⟨single, single'⟩
      rw [outsideQuotes, onLines_line joined, onLines_line single, spared plain]
    | cons line rest single' _ =>
      -- Only the first line of `right` is joined to the text, and the later ones have no quotes.
      have plainLine : '\'' ∉ line := fun member => plain (List.mem_append_left _ member)
      have plainRest : '\'' ∉ rest := fun member => plain (by simp [member])
      have joined : '\n' ∉ text ++ line := by simpa using ⟨single, single'⟩
      have whole := outsideQuotes_before plainRest []
      have nothing : outsideQuotes [] = [] := rfl
      rw [nothing, List.append_nil] at whole
      rw [outsideQuotes] at whole ⊢
      rw [← List.append_assoc, onLines_cons joined, onLines_line single, spared plainLine, whole,
        List.append_assoc]
  | cons line rest single ih =>
    rw [outsideQuotes] at ih ⊢
    rw [List.append_assoc, List.cons_append, onLines_cons single, onLines_cons single, ih]
    simp

/-- The string of a run of fragments is left out as a whole, unless a line ends in it. -/
theorem outsideQuotes_quotedRun {run : List Node} :
    outsideQuotes (quotedRun run).toList = [] ↔ ∀ part ∈ run, ¬ EscapesLineFeed part.text := by
  have unbroken : (∀ part ∈ run, ¬ EscapesLineFeed part.text) ↔ '\n' ∉ runContent run := by
    rw [lineFeed_mem_runContent]
    push Not
    rfl
  rw [unbroken, toList_quotedRun, outsideQuotes]
  constructor
  · intro nothing broken
    obtain ⟨line, rest, split, single⟩ := List.eq_append_cons_of_mem broken
    -- The line feed at the end of the literal's first line is not erased.
    have single' : '\n' ∉ '\'' :: line := by simpa using single
    have lines : '\'' :: runContent run ++ ['\''] = '\'' :: line ++ '\n' :: (rest ++ ['\'']) := by simp [split]
    rw [lines, onLines_cons single'] at nothing
    simp at nothing
  · intro single
    have span : Span '\'' '\'' ('\'' :: runContent run ++ ['\'']) [] (runContent run) [] :=
      ⟨rfl, List.not_mem_nil, List.not_mem_nil⟩
    rw [onLines_line (by simpa using single), span.outsideSpan, List.append_nil]

theorem lowerString_fragments {run : List Node} (fragments : ∀ part ∈ run, part.kind = .fragment)
    (config : Config) (depth : Nat) {children : Option (List Node)} (parts : children.getD [] = run) :
    lowerString config depth children = pure (quotedRun run) := by
  subst parts
  match children with
  | none => rfl
  | some [] => rfl
  | some (first :: rest) => exact lowerString_run ⟨List.cons_ne_nil _ _, fragments⟩ config depth

/-- The node is a condition whose expression is a string of fragments between two verbatim texts. -/
structure TestsString (left : String) (run : List Node) (right : String) (node : Node) : Prop where
  command : node.command? = some .ifThen
  fragments : ∀ part ∈ run, part.kind = .fragment
  children : ∃ opening literal closing, node.children = some [opening, literal, closing] ∧
    (opening.kind = .verbatim ∧ opening.text = left) ∧
    (literal.kind = .string ∧ literal.children.getD [] = run) ∧
    (closing.kind = .verbatim ∧ closing.text = right)

namespace TestsString

variable {left right : String} {run : List Node} {node : Node}

theorem lowerChildren_run (tests : TestsString left run right node) (config : Config) (depth : Nat)
    (emission : Emission) :
    (lowerChildren config depth node.children).run emission =
      .ok (left ++ quotedRun run ++ right) emission := by
  obtain ⟨⟨_, _, _, _⟩, ⟨_, _, _, _⟩, ⟨_, _, _, _⟩, children, ⟨rfl, rfl⟩, ⟨rfl, parts⟩, ⟨rfl, rfl⟩⟩ :=
    tests.children
  have nothing : appendText "" = "" := rfl
  simp [children, lowerChildren, lowerSiblings, lowerNode,
    lowerString_fragments tests.fragments config depth parts, nothing, String.append_assoc]

theorem accepted_iff (tests : TestsString left run right node) (plainLeft : '\'' ∉ left.toList)
    (plainRight : '\'' ∉ right.toList) (config : Config) (depth : Nat) (before after : Option Kind)
    (start : Emission) :
    (∃ code result, (lowerNode config depth before after node).run start = .ok code result) ↔
      ¬ Assigns (left.toList ++ outsideQuotes (quotedRun run).toList ++ right.toList) := by
  have present : Text.isBlank (left ++ quotedRun run ++ right) = false := by
    have quote : Text.isWhiteSpace '\'' = false := by decide
    simp [Text.isBlank, toList_quotedRun, quote]
  have admits : AdmitsCondition .ifThen start := .inl rfl
  rw [lowerNode_command_run tests.command rfl (tests.lowerChildren_run config (depth + 1) start),
    (admits.run present node.position).2, assigns_iff, String.toList_append, String.toList_append,
    outsideQuotes_after plainRight, outsideQuotes_before plainLeft]

end TestsString

/-- A condition with a string between two texts without quotes is checked without the string, unless
a fragment of it holds an escaped line feed. So of two conditions with the same texts and no such
fragments both are accepted or neither is. -/
theorem conditions_ignore_strings {left right : String} (plainLeft : '\'' ∉ left.toList)
    (plainRight : '\'' ∉ right.toList) (config : Config) (depth : Nat) (before after : Option Kind)
    (start : Emission) :
    (∀ (run : List Node) (node : Node), TestsString left run right node →
      ((∃ code result, (lowerNode config depth before after node).run start = .ok code result) ↔
        ¬ Assigns (left.toList ++ outsideQuotes (quotedRun run).toList ++ right.toList))) ∧
    (∀ run : List Node, outsideQuotes (quotedRun run).toList = [] ↔
      ∀ part ∈ run, ¬ EscapesLineFeed part.text) ∧
    ∀ (run otherRun : List Node) (node other : Node),
      TestsString left run right node → TestsString left otherRun right other →
      (∀ part ∈ run ++ otherRun, ¬ EscapesLineFeed part.text) →
      ((∃ code result, (lowerNode config depth before after node).run start = .ok code result) ↔
        ∃ code result, (lowerNode config depth before after other).run start = .ok code result) := by
  refine ⟨?_, fun run => outsideQuotes_quotedRun, ?_⟩
  · intro run node tests
    exact tests.accepted_iff plainLeft plainRight config depth before after start
  · intro run otherRun node other tests otherTests unescaped
    obtain ⟨here, there⟩ := List.forall_mem_append.mp unescaped
    rw [tests.accepted_iff plainLeft plainRight, otherTests.accepted_iff plainLeft plainRight,
      outsideQuotes_quotedRun.mpr here, outsideQuotes_quotedRun.mpr there]

/-- A condition that compares with a string of one fragment. -/
def comparison (fragment : String) : Node :=
  .directive "if" (some [.verbatim "x==", .string [.fragment fragment], .verbatim ""])

theorem conditions_ignore_strings_compared :
    TestsString "x==" [.fragment "it's\n a=1"] "" (comparison "it's\n a=1") ∧
    TestsString "x==" [.fragment "b"] "" (comparison "b") ∧
    (∀ part ∈ [Node.fragment "it's\n a=1", .fragment "b"], ¬ EscapesLineFeed part.text) ∧
    ((∃ code result, (lowerNode {} 0 none none (comparison "it's\n a=1")).run {} = .ok code result) ↔
      ∃ code result, (lowerNode {} 0 none none (comparison "b")).run {} = .ok code result) ∧
    ∃ code result, (lowerNode {} 0 none none (comparison "b")).run {} = .ok code result := by
  have tests : ∀ fragment, TestsString "x==" [.fragment fragment] "" (comparison fragment) := by
    intro fragment
    have name : Directive.ofName? (Text.trim "if") = some .ifThen := by decide +kernel
    have command : (comparison fragment).command? = some .ifThen := (Node.command?_directive ..).trans name
    exact ⟨command, by simp [Node.fragment], _, _, _, rfl, ⟨rfl, rfl⟩, ⟨rfl, rfl⟩, rfl, rfl⟩
  have unescaped : ∀ part ∈ [Node.fragment "it's\n a=1", .fragment "b"], ¬ EscapesLineFeed part.text := by
    decide +kernel
  have ⟨accepted, _, same⟩ :=
    conditions_ignore_strings (by decide : '\'' ∉ "x==".toList) (by decide : '\'' ∉ "".toList) {} 0 none none {}
  refine ⟨tests _, tests _, unescaped, same _ _ _ _ (tests _) (tests _) unescaped, ?_⟩
  refine (accepted _ _ (tests _)).mpr ?_
  decide +kernel

/-- An equals sign on the second line of a string is taken for an assignment. -/
theorem conditions_read_continued_strings :
    programOf {} [comparison "\\\na=1", .directive "end" none] =
      .error (.faulty ⟨0, .assignmentInCondition .ifThen "x=='\\\na=1'"⟩) ∧
    programOf {} [comparison "b", .directive "end" none] =
      .ok ⟨[], false, false, "if(x=='b')\x7b\x7d"⟩ := by
  decide +kernel

end Lowering

end TemplateCompiler
