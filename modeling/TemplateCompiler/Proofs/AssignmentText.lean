import Mathlib.Data.List.DropRight
import TemplateCompiler.Proofs.Outcomes
import TemplateCompiler.Proofs.PatternMatches
import TemplateCompiler.Proofs.Walk

namespace TemplateCompiler.Lowering

open Text (Pattern PatternPart isWhiteSpace)

/-- A text with each of its lines edited. Lines end with line feeds alone. -/
def onLines (edit : List Char → List Char) (text : List Char) : List Char :=
  ['\n'].intercalate ((text.splitOn '\n').map edit)

/-- A line without everything from its first `opening` to its last `closing` character, if the one
stands before the other. -/
def outsideSpan (opening closing : Char) (line : List Char) : List Char :=
  if [opening, closing].Sublist line then
    line.takeWhile (· != opening) ++ line.rtakeWhile (· != closing)
  else line

def outsideQuotes : List Char → List Char :=
  onLines (outsideSpan '\'' '\'')

def outsideParentheses : List Char → List Char :=
  onLines (outsideSpan '(' ')')

/-- The character is an ASCII letter or digit, an underscore or white space. -/
def WordOrSpace (c : Char) : Prop :=
  'a' ≤ c ∧ c ≤ 'z' ∨ 'A' ≤ c ∧ c ≤ 'Z' ∨ '0' ≤ c ∧ c ≤ '9' ∨ c = '_' ∨ isWhiteSpace c = true

/-- The character can end the target of an assignment. -/
def EndsTarget (c : Char) : Prop :=
  WordOrSpace c ∨ c = ']'

/-- The character shows that an assignment has a value. -/
def ShowsValue (c : Char) : Prop :=
  WordOrSpace c ∨ c = '[' ∨ c = '\x7b'

/-- An equals sign stands directly after a character that can end a target, and something that shows a
value stands before the next equals sign. -/
def Assigns (text : List Char) : Prop :=
  ∃ before c rest, text = before ++ c :: '=' :: rest ∧ EndsTarget c ∧
    ∃ v ∈ rest.takeWhile (· != '='), ShowsValue v

/-- The text ends with an equals sign directly after a character that can end a target. -/
def EndsAssigning (text : List Char) : Prop :=
  ∃ before c, text = before ++ [c, '='] ∧ EndsTarget c

theorem isAlphanum_iff {c : Char} :
    c.isAlphanum = true ↔ 'a' ≤ c ∧ c ≤ 'z' ∨ 'A' ≤ c ∧ c ≤ 'Z' ∨ '0' ≤ c ∧ c ≤ '9' := by
  delta Char.isAlphanum Char.isAlpha Char.isUpper Char.isLower Char.isDigit
  simp only [Bool.or_eq_true, Bool.and_eq_true, decide_eq_true_eq, Char.le_def]
  tauto

theorem endsTarget_iff {c : Char} : endsTarget c = true ↔ EndsTarget c := by
  simp only [endsTarget, EndsTarget, WordOrSpace, Bool.or_eq_true, isAlphanum_iff, beq_iff_eq]
  tauto

theorem showsValue_iff {c : Char} : showsValue c = true ↔ ShowsValue c := by
  simp only [showsValue, ShowsValue, WordOrSpace, Bool.or_eq_true, isAlphanum_iff, beq_iff_eq]
  tauto

instance (c : Char) : Decidable (ShowsValue c) :=
  decidable_of_iff _ showsValue_iff

theorem onLines_line {edit : List Char → List Char} {line : List Char} (single : '\n' ∉ line) :
    onLines edit line = edit line := by
  rw [onLines, List.splitOn_eq_singleton single, List.map_singleton, List.intercalate_singleton]

theorem onLines_cons {edit : List Char → List Char} {line : List Char} (single : '\n' ∉ line)
    (rest : List Char) :
    onLines edit (line ++ '\n' :: rest) = edit line ++ '\n' :: onLines edit rest := by
  have others : (rest.splitOn '\n').map edit ≠ [] := by simp
  rw [onLines, List.splitOn_append_cons_self_of_not_mem single, List.map_cons,
    List.intercalate_cons_of_ne_nil others, List.append_assoc]
  rfl

/-- A text is one line, or a line, a line feed and a text. -/
theorem lines_induction {motive : List Char → Prop}
    (line : ∀ line, '\n' ∉ line → motive line)
    (cons : ∀ line rest, '\n' ∉ line → motive rest → motive (line ++ '\n' :: rest))
    (text : List Char) : motive text := by
  induction size : text.length using Nat.strong_induction_on generalizing text with
  | _ size ih =>
    by_cases broken : '\n' ∈ text
    · obtain ⟨first, rest, rfl, single⟩ := List.eq_append_cons_of_mem broken
      refine cons first rest single (ih rest.length ?_ rest rfl)
      rw [← size, List.length_append, List.length_cons]
      omega
    · exact line text broken

/-- The parts of a line before, in and after its span. -/
structure Span (opening closing : Char) (line before inside after : List Char) : Prop where
  whole : line = before ++ opening :: (inside ++ closing :: after)
  first : opening ∉ before
  last : closing ∉ after

theorem Span.sublist {opening closing : Char} {line before inside after : List Char}
    (span : Span opening closing line before inside after) : [opening, closing].Sublist line := by
  rw [span.whole]
  refine List.cons_sublist_iff.mpr ⟨before ++ [opening], inside ++ closing :: after, by simp, by simp, ?_⟩
  exact List.singleton_sublist.mpr (by simp)

theorem exists_span {opening closing : Char} {line : List Char}
    (ordered : [opening, closing].Sublist line) :
    ∃ before inside after, Span opening closing line before inside after := by
  obtain ⟨left, right, rfl, inLeft, inRight⟩ := List.cons_sublist_iff.mp ordered
  rw [List.singleton_sublist] at inRight
  obtain ⟨before, inside, rfl, first⟩ := List.eq_append_cons_of_mem inLeft
  obtain ⟨after, inside', reversed, last⟩ := List.eq_append_cons_of_mem (List.mem_reverse.mpr inRight)
  have split : right = inside'.reverse ++ closing :: after.reverse := by
    rw [← List.reverse_reverse right, reversed]
    simp
  exact ⟨before, inside ++ inside'.reverse, after.reverse, by simp [split], first, by simpa using last⟩

theorem forall_bne_of_not_mem {c : Char} {cs : List Char} (absent : c ∉ cs) : ∀ d ∈ cs, (d != c) = true := by
  intro d member
  rw [bne_iff_ne]
  rintro rfl
  exact absent member

theorem takeWhile_ne_append {c : Char} {before : List Char} (absent : c ∉ before) (rest : List Char) :
    (before ++ c :: rest).takeWhile (· != c) = before := by
  rw [List.takeWhile_append_of_pos (forall_bne_of_not_mem absent), List.takeWhile_cons_of_neg (by simp),
    List.append_nil]

theorem rtakeWhile_ne_append {c : Char} {after : List Char} (absent : c ∉ after) (rest : List Char) :
    (rest ++ c :: after).rtakeWhile (· != c) = after := by
  have reversed := takeWhile_ne_append (by simpa using absent : c ∉ after.reverse) rest.reverse
  rw [List.rtakeWhile, List.reverse_append, List.reverse_cons, List.append_assoc, List.singleton_append,
    reversed, List.reverse_reverse]

theorem Span.outsideSpan {opening closing : Char} {line before inside after : List Char}
    (span : Span opening closing line before inside after) :
    outsideSpan opening closing line = before ++ after := by
  have regrouped : line = (before ++ opening :: inside) ++ closing :: after := by simp [span.whole]
  rw [Lowering.outsideSpan, if_pos span.sublist]
  nth_rewrite 1 [span.whole]
  rw [regrouped, takeWhile_ne_append span.first, rtakeWhile_ne_append span.last]

/-- The pattern that takes everything from an `opening` character to the last `closing` one of the line. -/
def spanPattern (opening closing : Char) : Pattern :=
  ⟨(· == opening), [.many (· != '\n'), .one (· == closing)]⟩

/-- What follows a line. -/
def EndsLine (rest : List Char) : Prop :=
  ∀ c ∈ rest.head?, c = '\n'

section

variable {opening closing : Char}

theorem closing_refuses {rest : List Char} (ends : EndsLine rest) (inLine : closing ≠ '\n') :
    PatternPart.rest? [.one (· == closing)] rest = none := by
  cases rest with
  | nil => rfl
  | cons c rest =>
    have feed := ends c rfl
    refine if_neg fun same => inLine ?_
    rw [← eq_of_beq same, feed]

/-- Without a closing character in the line the rest of a span is not matched. -/
theorem greedy_line_none {line rest : List Char} (single : '\n' ∉ line) (ends : EndsLine rest)
    (inLine : closing ≠ '\n') (absent : closing ∉ line) :
    PatternPart.greedy (· != '\n') (PatternPart.rest? [.one (· == closing)]) (line ++ rest) = none := by
  induction line with
  | nil =>
    have stops := closing_refuses ends inLine
    cases rest with
    | nil => exact stops
    | cons c rest =>
      have feed := ends c rfl
      rw [List.nil_append, PatternPart.greedy_cons, if_neg (by simp [feed]), stops]
  | cons c line ih =>
    obtain ⟨here, single⟩ := List.ne_and_not_mem_of_not_mem_cons single
    obtain ⟨other, absent⟩ := List.ne_and_not_mem_of_not_mem_cons absent
    have stops : PatternPart.rest? [.one (· == closing)] (c :: (line ++ rest)) = none :=
      if_neg fun same => other (eq_of_beq same).symm
    rw [List.cons_append, PatternPart.greedy_cons, ih single absent, stops]
    split <;> rfl

/-- The rest of a span is matched up to the last closing character of the line. -/
theorem greedy_line_some {inside after rest : List Char} (single : '\n' ∉ inside ++ closing :: after)
    (ends : EndsLine rest) (last : closing ∉ after) :
    PatternPart.greedy (· != '\n') (PatternPart.rest? [.one (· == closing)])
      (inside ++ closing :: after ++ rest) = some (after ++ rest) := by
  induction inside with
  | nil =>
    obtain ⟨here, single⟩ := List.ne_and_not_mem_of_not_mem_cons single
    have found : PatternPart.rest? [.one (· == closing)] (closing :: (after ++ rest)) =
        some (after ++ rest) := if_pos (beq_self_eq_true closing)
    rw [List.nil_append, List.cons_append, PatternPart.greedy_cons,
      greedy_line_none single ends (Ne.symm here) last, found]
    split <;> rfl
  | cons c inside ih =>
    obtain ⟨here, single⟩ := List.ne_and_not_mem_of_not_mem_cons single
    have accepted : (c != '\n') = true := bne_iff_ne.mpr (Ne.symm here)
    rw [List.cons_append, List.cons_append, PatternPart.greedy_cons, if_pos accepted, ih single,
      Option.some_or]

theorem spanPattern_rest?_eq_none {c : Char} (other : c ≠ opening) (cs : List Char) :
    (spanPattern opening closing).rest? (c :: cs) = none :=
  if_neg fun same => other (eq_of_beq same)

theorem Span.find? {line before inside after rest : List Char}
    (span : Span opening closing line before inside after) (single : '\n' ∉ line) (ends : EndsLine rest) :
    (spanPattern opening closing).find? (line ++ rest) = some (before, after ++ rest) := by
  have single' : '\n' ∉ inside ++ closing :: after := by
    intro member
    exact single (by rw [span.whole]; simp [member])
  refine Pattern.find?_eq_some_iff.mpr ⟨opening :: (inside ++ closing :: after ++ rest), ?_, ?_, ?_⟩
  · rw [span.whole, List.append_assoc, List.cons_append]
  · exact (if_pos (beq_self_eq_true opening)).trans (greedy_line_some single' ends span.last)
  · intro left right split present
    obtain ⟨c, right, rfl⟩ := List.exists_cons_of_ne_nil present
    refine spanPattern_rest?_eq_none ?_ _
    rintro rfl
    exact span.first (by rw [split]; simp)

/-- Nothing is erased from a line in which no closing character follows an opening one. -/
theorem eraseAll_unordered {line rest : List Char} (unordered : ¬ [opening, closing].Sublist line)
    (single : '\n' ∉ line) (ends : EndsLine rest) (inLine : closing ≠ '\n') :
    (spanPattern opening closing).eraseAll (line ++ rest) =
      line ++ (spanPattern opening closing).eraseAll rest := by
  induction line with
  | nil => rfl
  | cons c line ih =>
    have single' := List.not_mem_of_not_mem_cons single
    have refused : (spanPattern opening closing).rest? (c :: (line ++ rest)) = none := by
      by_cases same : c = opening
      · subst same
        have absent : closing ∉ line := fun member =>
          unordered ((List.singleton_sublist.mpr member).cons_cons c)
        exact (if_pos (beq_self_eq_true c)).trans (greedy_line_none single' ends inLine absent)
      · exact spanPattern_rest?_eq_none same _
    rw [List.cons_append, Pattern.eraseAll_cons refused, ih (fun ordered => unordered (ordered.cons c)) single',
      List.cons_append]

theorem eraseAll_line {line rest : List Char} (single : '\n' ∉ line) (ends : EndsLine rest)
    (inLine : closing ≠ '\n') :
    (spanPattern opening closing).eraseAll (line ++ rest) =
      outsideSpan opening closing line ++ (spanPattern opening closing).eraseAll rest := by
  by_cases ordered : [opening, closing].Sublist line
  · obtain ⟨before, inside, after, span⟩ := exists_span ordered
    have unordered : ¬ [opening, closing].Sublist after := fun ordered =>
      span.last (ordered.subset (by simp))
    have single' : '\n' ∉ after := by
      intro member
      exact single (by rw [span.whole]; simp [member])
    rw [Pattern.eraseAll_of_some (span.find? single ends), eraseAll_unordered unordered single' ends inLine,
      span.outsideSpan, List.append_assoc]
  · rw [eraseAll_unordered ordered single ends inLine, outsideSpan, if_neg ordered]

/-- Erasing spans erases one from each line that has one. -/
theorem eraseAll_eq_onLines (opens : opening ≠ '\n') (closes : closing ≠ '\n') (text : List Char) :
    (spanPattern opening closing).eraseAll text = onLines (outsideSpan opening closing) text := by
  induction text using lines_induction with
  | line line single =>
    have nothing : (spanPattern opening closing).eraseAll [] = [] := Pattern.eraseAll_of_none rfl
    have ends : EndsLine [] := nofun
    rw [onLines_line single, ← List.append_nil line, eraseAll_line single ends closes, nothing,
      List.append_nil, List.append_nil]
  | cons line rest single ih =>
    have ends : EndsLine ('\n' :: rest) := by
      intro c feed
      cases feed
      rfl
    rw [eraseAll_line single ends closes, Pattern.eraseAll_cons (spanPattern_rest?_eq_none opens.symm _), ih,
      onLines_cons single]

end

/-- A value is found before the next equals sign, since no equals sign shows one. -/
theorem value_greedy_iff {rest : List Char} :
    (PatternPart.greedy (· != '=') (PatternPart.rest? [.one showsValue]) rest).isSome = true ↔
      ∃ v ∈ rest.takeWhile (· != '='), ShowsValue v := by
  simp only [PatternPart.greedy_isSome_iff, ← showsValue_iff]
  constructor
  · rintro ⟨taken, left, rfl, others, found⟩
    obtain ⟨_, found⟩ := Option.isSome_iff_exists.mp found
    obtain ⟨v, left, rfl, shows, _⟩ := PatternPart.rest?_one_eq_some_iff.mp found
    have value : (v != '=') = true := by
      rw [bne_iff_ne]
      rintro rfl
      exact absurd shows (by decide)
    refine ⟨v, ?_, shows⟩
    rw [List.takeWhile_append_of_pos others, List.takeWhile_cons, if_pos value]
    simp
  · rintro ⟨v, member, shows⟩
    obtain ⟨taken, left, split⟩ := List.append_of_mem member
    refine ⟨taken, v :: left ++ rest.dropWhile (· != '='), ?_, fun c inside => ?_, ?_⟩
    · rw [← List.append_assoc, ← split, List.takeWhile_append_dropWhile]
    · have early : c ∈ rest.takeWhile (· != '=') := by
        rw [split]
        exact List.mem_append_left _ inside
      exact List.mem_takeWhile_imp (p := (· != '=')) early
    · rw [List.cons_append, PatternPart.rest?, if_pos shows]
      rfl

theorem assignment_occursIn_iff {text : List Char} : assignment.occursIn text = true ↔ Assigns text := by
  have at_iff : ∀ after, (assignment.rest? after).isSome = true ↔
      ∃ c rest, after = c :: '=' :: rest ∧ EndsTarget c ∧
        ∃ v ∈ rest.takeWhile (· != '='), ShowsValue v := by
    intro after
    simp only [← endsTarget_iff, ← value_greedy_iff, Option.isSome_iff_exists, Pattern.rest?_eq_some_iff, assignment,
      PatternPart.rest?_one_eq_some_iff, beq_iff_eq]
    constructor
    · rintro ⟨left, c, _, rfl, target, _, rest, rfl, rfl, found⟩
      exact ⟨c, rest, rfl, target, left, found⟩
    · rintro ⟨c, rest, rfl, target, left, found⟩
      exact ⟨left, c, _, rfl, target, '=', rest, rfl, rfl, found⟩
  simp only [Pattern.occursIn_iff, at_iff]
  constructor
  · rintro ⟨before, _, rfl, c, rest, rfl, holds⟩
    exact ⟨before, c, rest, rfl, holds⟩
  · rintro ⟨before, c, rest, rfl, holds⟩
    exact ⟨before, _, rfl, c, rest, rfl, holds⟩

theorem trailingAssignment_occursIn_iff {text : List Char} :
    trailingAssignment.occursIn text = true ↔ EndsAssigning text := by
  have at_iff : ∀ after, (trailingAssignment.rest? after).isSome = true ↔
      ∃ c, after = [c, '='] ∧ EndsTarget c := by
    intro after
    simp only [← endsTarget_iff, Option.isSome_iff_exists, Pattern.rest?_eq_some_iff, trailingAssignment,
      PatternPart.rest?_one_eq_some_iff, beq_iff_eq]
    constructor
    · rintro ⟨left, c, _, rfl, target, _, rest, rfl, rfl, found⟩
      rw [PatternPart.rest?, Option.ite_none_right_eq_some, List.isEmpty_iff] at found
      obtain ⟨rfl, _⟩ := found
      exact ⟨c, rfl, target⟩
    · rintro ⟨c, rfl, target⟩
      exact ⟨[], c, _, rfl, target, '=', [], rfl, rfl, rfl⟩
  simp only [Pattern.occursIn_iff, at_iff]
  constructor
  · rintro ⟨before, _, rfl, c, rfl, target⟩
    exact ⟨before, c, rfl, target⟩
  · rintro ⟨before, c, rfl, target⟩
    exact ⟨before, _, rfl, c, rfl, target⟩

instance (text : List Char) : Decidable (Assigns text) :=
  decidable_of_iff _ assignment_occursIn_iff

instance (text : List Char) : Decidable (EndsAssigning text) :=
  decidable_of_iff _ trailingAssignment_occursIn_iff

theorem quotedText_eraseAll (text : List Char) : quotedText.eraseAll text = outsideQuotes text :=
  eraseAll_eq_onLines (by decide) (by decide) text

theorem parenthesised_eraseAll (text : List Char) : parenthesised.eraseAll text = outsideParentheses text :=
  eraseAll_eq_onLines (by decide) (by decide) text

/-- A condition assigns if it does so outside its quoted strings. -/
theorem assigns_iff {expression : String} :
    assigns expression = true ↔ Assigns (outsideQuotes expression.toList) := by
  rw [assigns, quotedText_eraseAll, assignment_occursIn_iff]

/-- An expression is an assignment if it is one outside its quoted strings and parentheses, where its
value may be missing. -/
theorem isAssignment_iff {expression : String} :
    isAssignment expression = true ↔
      Assigns (outsideParentheses (outsideQuotes expression.toList)) ∨
        EndsAssigning (outsideParentheses (outsideQuotes expression.toList)) := by
  rw [isAssignment, quotedText_eraseAll, parenthesised_eraseAll, Bool.or_eq_true, assignment_occursIn_iff,
    trailingAssignment_occursIn_iff]

/-- A directive that takes an expression acts on what its children have been lowered to. -/
theorem lowerNode_command_run {config : Config} {depth : Nat} {before after : Option Kind} {node : Node}
    {directive : Directive} {expression : String} {start emission : Emission}
    (command : node.command? = some directive) (takes : directive.takesExpression = true)
    (lowered : (lowerChildren config (depth + 1) node.children).run start = .ok expression emission) :
    (lowerNode config depth before after node).run start =
      (lowerDirective directive expression node.position).run emission := by
  obtain ⟨kind, text, children, position⟩ := node
  cases Node.kind_of_command command
  rw [Node.command?_directive] at command
  simp only [lowerNode, command, takes, if_true]
  rw [EStateM.run_bind, lowered]

/-- The directive takes a condition, and one can stand here. -/
def AdmitsCondition (directive : Directive) (emission : Emission) : Prop :=
  directive = .ifThen ∨ directive = .elseIf ∧ emission.innermost? = some .conditional

theorem AdmitsCondition.takes {directive : Directive} {emission : Emission}
    (admits : AdmitsCondition directive emission) : directive.takesExpression = true := by
  rcases admits with rfl | ⟨rfl, _⟩ <;> rfl

theorem AdmitsCondition.run {directive : Directive} {emission : Emission}
    (admits : AdmitsCondition directive emission) {expression : String}
    (present : Text.isBlank expression = false) (position : Nat) :
    ((lowerDirective directive expression position).run emission =
        .error ⟨position, .assignmentInCondition directive expression⟩ emission ↔
      assigns expression = true) ∧
    ((∃ code result, (lowerDirective directive expression position).run emission = .ok code result) ↔
      ¬ assigns expression = true) := by
  unfold lowerDirective
  rw [present, Bool.and_false]
  rcases admits with rfl | ⟨rfl, inside⟩
  · simp only [Bool.false_eq_true, if_false, lowerIf_run]
    cases assigns expression <;> simp
  · simp only [Bool.false_eq_true, if_false, lowerElseIf_run, if_pos inside]
    cases assigns expression <;> simp

theorem lowerDirective_assign_run {expression : String} (present : Text.isBlank expression = false)
    (position : Nat) (emission : Emission) :
    ((∃ code result, (lowerDirective .assign expression position).run emission = .ok code result) ↔
      isAssignment expression = true) ∧
    ((lowerDirective .assign expression position).run emission =
        .error ⟨position, .malformedAssignment expression⟩ emission ↔
      ¬ isAssignment expression = true) := by
  rw [lowerDirective, present, Bool.and_false]
  simp only [Bool.false_eq_true, if_false, lowerAssign_run]
  cases isAssignment expression <;> simp

/-- A condition is refused exactly if it assigns outside its quotes, and an assignment is accepted
exactly if it is one outside its quotes and parentheses. What is refused leaves the emission as the
children have made it. -/
theorem directives_check_assignments {config : Config} {depth : Nat} {before after : Option Kind}
    {node : Node} {directive : Directive} {expression : String} {start emission : Emission}
    (command : node.command? = some directive)
    (lowered : (lowerChildren config (depth + 1) node.children).run start = .ok expression emission)
    (present : Text.isBlank expression = false) :
    (AdmitsCondition directive emission →
      ((lowerNode config depth before after node).run start =
          .error ⟨node.position, .assignmentInCondition directive expression⟩ emission ↔
        Assigns (outsideQuotes expression.toList)) ∧
      ((∃ code result, (lowerNode config depth before after node).run start = .ok code result) ↔
        ¬ Assigns (outsideQuotes expression.toList))) ∧
    (directive = .assign →
      ((∃ code result, (lowerNode config depth before after node).run start = .ok code result) ↔
        Assigns (outsideParentheses (outsideQuotes expression.toList)) ∨
          EndsAssigning (outsideParentheses (outsideQuotes expression.toList))) ∧
      ((lowerNode config depth before after node).run start =
          .error ⟨node.position, .malformedAssignment expression⟩ emission ↔
        ¬ (Assigns (outsideParentheses (outsideQuotes expression.toList)) ∨
          EndsAssigning (outsideParentheses (outsideQuotes expression.toList))))) := by
  rw [← assigns_iff, ← isAssignment_iff]
  constructor
  · intro admits
    rw [lowerNode_command_run command admits.takes lowered]
    exact admits.run present node.position
  · rintro rfl
    rw [lowerNode_command_run command rfl lowered]
    exact lowerDirective_assign_run present node.position emission

/-- An expression with a quoted parenthesis and a quoted equals sign, whose value begins on the next line. -/
def crossingExpression : String :=
  "x['=('] =\n  f(y==1)"

theorem directives_check_assignments_crossing :
    Text.isBlank crossingExpression = false ∧
    (lowerNode {} 0 none none (.directive "if" (some [.verbatim crossingExpression]))).run {} =
      .error ⟨0, .assignmentInCondition .ifThen crossingExpression⟩ {} ∧
    ∃ code result, (lowerNode {} 0 none none
      (.directive "set" (some [.verbatim crossingExpression]))).run {} = .ok code result := by
  have present : Text.isBlank crossingExpression = false := by decide +kernel
  have lowered : (lowerChildren {} 1 (some [.verbatim crossingExpression])).run {} =
      .ok crossingExpression {} := rfl
  have condition : (Node.directive "if" (some [.verbatim crossingExpression])).command? = some .ifThen := by
    decide +kernel
  have assignment : (Node.directive "set" (some [.verbatim crossingExpression])).command? = some .assign := by
    decide +kernel
  refine ⟨present, ?_, ?_⟩
  · refine ((directives_check_assignments condition lowered present).1 (.inl rfl)).1.mpr ?_
    decide +kernel
  · refine ((directives_check_assignments assignment lowered present).2 rfl).1.mpr (.inl ?_)
    decide +kernel

end TemplateCompiler.Lowering
