import TemplateCompiler.Proofs.Hoisting

namespace TemplateCompiler

open Script (StringState)

/-- The bracket that closes an opening bracket. -/
def closerOf? (c : Char) : Option Char :=
  if c = '(' then some ')'
  else if c = '[' then some ']'
  else if c = '\x7b' then some '\x7d'
  else none

def isCloser (c : Char) : Bool :=
  c == ')' || c == ']' || c == '\x7d'

/-- What a scan of script text knows about the text before the current character. -/
structure Scanner where
  strings : StringState := .outside
  /-- The closers of the open brackets, the innermost first. -/
  due : List Char := []
  deriving DecidableEq, Repr

/-- The next state of a scan. Brackets count outside of strings only, and a closer has to be the one
that is due. -/
def Scanner.step (scanner : Scanner) (c : Char) : Option Scanner :=
  match scanner.strings with
  | .inside quote => some { scanner with strings := .insideStep quote c }
  | .escaped quote => some { scanner with strings := .inside quote }
  | .outside =>
    if Script.isQuote c then some { scanner with strings := .inside c }
    else
      match closerOf? c with
      | some closer => some { scanner with due := closer :: scanner.due }
      | none =>
        if isCloser c then
          match scanner.due with
          | [] => none
          | closer :: due => if c = closer then some { scanner with due := due } else none
        else some scanner

def Scanner.run (scanner : Scanner) (cs : List Char) : Option Scanner :=
  cs.foldlM Scanner.step scanner

/-- Scanning the text leads from one state to the other. -/
def Scans (start : Scanner) (text : String) (finish : Scanner) : Prop :=
  start.run text.toList = some finish

instance (start : Scanner) (text : String) (finish : Scanner) : Decidable (Scans start text finish) :=
  inferInstanceAs (Decidable (_ = _))

/-- Every string of the text ends and its brackets outside of strings are properly nested. -/
def Closed (text : String) : Prop :=
  Scans {} text {}

instance (text : String) : Decidable (Closed text) :=
  inferInstanceAs (Decidable (Scans {} text {}))

namespace Scanner

theorem run_cons (scanner : Scanner) (c : Char) (cs : List Char) :
    scanner.run (c :: cs) = (scanner.step c).bind fun next => next.run cs :=
  List.foldlM_cons

theorem run_append (scanner : Scanner) (first second : List Char) :
    scanner.run (first ++ second) = (scanner.run first).bind fun between => between.run second :=
  List.foldlM_append ..

theorem run_cons_eq_some {start finish : Scanner} {c : Char} {cs : List Char}
    (run : start.run (c :: cs) = some finish) :
    ∃ next, start.step c = some next ∧ next.run cs = some finish := by
  rw [run_cons] at run
  exact Option.bind_eq_some_iff.mp run

theorem step_inside (quote c : Char) (due : List Char) :
    step ⟨.inside quote, due⟩ c = some ⟨.insideStep quote c, due⟩ := rfl

/-- What a character outside of strings does: it opens a string or a bracket, it closes the bracket
that is due, or it is passed over. -/
theorem step_outside_cases {due : List Char} {finish : Scanner} {c : Char}
    (step : step ⟨.outside, due⟩ c = some finish) :
    (Script.isQuote c = true ∧ finish = ⟨.inside c, due⟩) ∨
    (Script.isQuote c = false ∧ ∃ closer, closerOf? c = some closer ∧ finish = ⟨.outside, closer :: due⟩) ∨
    (Script.isQuote c = false ∧ closerOf? c = none ∧ isCloser c = true ∧
      ∃ outer, due = c :: outer ∧ finish = ⟨.outside, outer⟩) ∨
    (Script.isQuote c = false ∧ closerOf? c = none ∧ isCloser c = false ∧ finish = ⟨.outside, due⟩) := by
  unfold Scanner.step at step
  dsimp only at step
  split at step
  · rename_i quote
    exact .inl ⟨quote, (Option.some.inj step).symm⟩
  · rename_i other
    have unquoted := Bool.eq_false_iff.mpr other
    cases closer : closerOf? c with
    | some expected =>
      rw [closer] at step
      exact .inr (.inl ⟨unquoted, expected, rfl, (Option.some.inj step).symm⟩)
    | none =>
      rw [closer] at step
      dsimp only at step
      split at step
      · rename_i closes
        cases due with
        | nil => cases step
        | cons expected outer =>
          dsimp only at step
          split at step
          · rename_i same
            subst same
            exact .inr (.inr (.inl ⟨unquoted, rfl, closes, outer, rfl, (Option.some.inj step).symm⟩))
          · cases step
      · rename_i plain
        exact .inr (.inr (.inr ⟨unquoted, rfl, Bool.eq_false_iff.mpr plain, (Option.some.inj step).symm⟩))

/-- Brackets that are due around a text do not matter while its own are open. -/
theorem step_frame {start finish : Scanner} {c : Char} (outer : List Char)
    (step : start.step c = some finish) :
    ({ start with due := start.due ++ outer } : Scanner).step c =
      some { finish with due := finish.due ++ outer } := by
  obtain ⟨strings, due⟩ := start
  cases strings with
  | inside quote =>
    cases step
    rfl
  | escaped quote =>
    cases step
    rfl
  | outside =>
    obtain ⟨quote, rfl⟩ | ⟨unquoted, closer, opens, rfl⟩ | ⟨unquoted, opens, closes, rest, rfl, rfl⟩ |
      ⟨unquoted, opens, plain, rfl⟩ := step_outside_cases step
    · simp [Scanner.step, quote]
    · simp [Scanner.step, unquoted, opens]
    · simp [Scanner.step, unquoted, opens, closes]
    · simp [Scanner.step, unquoted, opens, plain]

theorem run_frame {start finish : Scanner} {cs : List Char} (outer : List Char)
    (run : start.run cs = some finish) :
    ({ start with due := start.due ++ outer } : Scanner).run cs =
      some { finish with due := finish.due ++ outer } := by
  induction cs generalizing start with
  | nil =>
    cases run
    rfl
  | cons c cs ih =>
    obtain ⟨next, first, rest⟩ := run_cons_eq_some run
    rw [run_cons, step_frame outer first]
    exact ih rest

end Scanner

namespace Scans

/-- Scanning a text that is given by its characters. -/
theorem of_chars {start finish : Scanner} {cs : List Char} (run : start.run cs = some finish) :
    Scans start (String.ofList cs) finish := by
  rw [Scans, String.toList_ofList]
  exact run

theorem empty (scanner : Scanner) : Scans scanner "" scanner := rfl

theorem append {start between finish : Scanner} {first second : String}
    (here : Scans start first between) (rest : Scans between second finish) :
    Scans start (first ++ second) finish := by
  rw [Scans, String.toList_append, Scanner.run_append, here]
  exact rest

theorem frame {strings strings' : StringState} {due due' : List Char} {text : String}
    (scan : Scans ⟨strings, due⟩ text ⟨strings', due'⟩) (outer : List Char) :
    Scans ⟨strings, due ++ outer⟩ text ⟨strings', due' ++ outer⟩ :=
  Scanner.run_frame outer scan

end Scans

theorem Closed.scans {text : String} (closed : Closed text) (due : List Char) :
    Scans ⟨.outside, due⟩ text ⟨.outside, due⟩ :=
  Scans.frame closed due

theorem Closed.append {first second : String} (here : Closed first) (rest : Closed second) :
    Closed (first ++ second) :=
  Scans.append here rest

example : Closed "f('(')[\"\\\"]\"]" := .of_chars (by decide)

example : ¬ Closed "(]" := by decide +kernel

/-- The characters that a scan outside of strings takes notice of. -/
def marks : List Char :=
  ['\'', '"', '\x60', '(', ')', '[', ']', '\x7b', '\x7d']

theorem Scanner.step_plain {c : Char} (plain : c ∉ marks) (due : List Char) :
    step ⟨.outside, due⟩ c = some ⟨.outside, due⟩ := by
  simp only [marks, List.mem_cons, List.not_mem_nil, or_false, not_or] at plain
  simp [step, Script.isQuote, closerOf?, isCloser, plain]

theorem Scanner.run_plain {cs : List Char} (plain : ∀ c ∈ cs, c ∉ marks) (due : List Char) :
    run ⟨.outside, due⟩ cs = some ⟨.outside, due⟩ := by
  induction cs with
  | nil => rfl
  | cons c cs ih =>
    rw [run_cons, step_plain (plain c List.mem_cons_self) due]
    exact ih fun d member => plain d (List.mem_cons_of_mem c member)

/-- A character of a class without marks is no mark. -/
theorem not_mem_marks {accepts : Char → Bool} (free : marks.any accepts = false) {c : Char}
    (accepted : accepts c = true) : c ∉ marks := by
  intro mark
  have found := List.any_eq_true.mpr ⟨c, mark, accepted⟩
  rw [free] at found
  cases found

theorem not_mem_marks_of_word {c : Char} (word : Script.isWordChar c = true) : c ∉ marks :=
  not_mem_marks (by decide) word

theorem not_mem_marks_of_space {c : Char} (space : Text.isWhiteSpace c = true) : c ∉ marks :=
  not_mem_marks (by decide) space

theorem VariableName.closed {name : String} (valid : VariableName name) : Closed name :=
  Scanner.run_plain (fun c member => not_mem_marks_of_word (valid.word c member)) []

/-- How a character changes where a reader is with respect to string literals. -/
def Script.StringState.next (strings : StringState) (c : Char) : StringState :=
  match strings with
  | .outside => if isQuote c then .inside c else .outside
  | .inside quote => .insideStep quote c
  | .escaped quote => .inside quote

theorem Scanner.step_strings {start finish : Scanner} {c : Char} (step : start.step c = some finish) :
    finish.strings = start.strings.next c := by
  obtain ⟨strings, due⟩ := start
  cases strings with
  | inside quote =>
    cases step
    rfl
  | escaped quote =>
    cases step
    rfl
  | outside =>
    obtain ⟨quote, rfl⟩ | ⟨unquoted, _, _, rfl⟩ | ⟨unquoted, _, _, _, _, rfl⟩ | ⟨unquoted, _, _, rfl⟩ :=
      step_outside_cases step
    · simp [StringState.next, quote]
    all_goals simp [StringState.next, unquoted]

/-- The quote that ends the string that a reader is in. -/
def Script.StringState.quote? : StringState → Option Char
  | .outside => none
  | .inside quote | .escaped quote => some quote

/-- A reader that is inside a string is there because of a quote. -/
def Script.StringState.Quoted (strings : StringState) : Prop :=
  ∀ quote ∈ strings.quote?, isQuote quote = true

theorem Script.StringState.Quoted.next {strings : StringState} (quoted : strings.Quoted) (c : Char) :
    (strings.next c).Quoted := by
  intro quote inside
  cases strings with
  | outside =>
    simp only [StringState.next] at inside
    split at inside <;> cases inside
    assumption
  | escaped previous => exact quoted quote inside
  | inside previous =>
    simp only [StringState.next, insideStep] at inside
    split at inside
    · exact quoted quote inside
    · split at inside
      · cases inside
      · exact quoted quote inside

theorem Scanner.quoted_run {start finish : Scanner} {cs : List Char} (quoted : start.strings.Quoted)
    (run : start.run cs = some finish) : finish.strings.Quoted := by
  induction cs generalizing start with
  | nil =>
    cases run
    exact quoted
  | cons c cs ih =>
    obtain ⟨next, first, rest⟩ := run_cons_eq_some run
    have after := quoted.next c
    rw [← step_strings first] at after
    exact ih after rest

/-- White space ends neither a string nor a bracket. -/
theorem Scanner.eq_of_run_space {start : Scanner} {cs : List Char} {due : List Char}
    (quoted : start.strings.Quoted) (space : ∀ c ∈ cs, Text.isWhiteSpace c = true)
    (run : start.run cs = some ⟨.outside, due⟩) : start = ⟨.outside, due⟩ := by
  induction cs generalizing start with
  | nil => exact Option.some.inj run
  | cons c cs ih =>
    obtain ⟨next, first, rest⟩ := run_cons_eq_some run
    have quotedNext : next.strings.Quoted := by
      rw [step_strings first]
      exact quoted.next c
    have after := ih quotedNext (fun d member => space d (List.mem_cons_of_mem c member)) rest
    have plain := not_mem_marks_of_space (space c List.mem_cons_self)
    rw [after] at first
    obtain ⟨strings, brackets⟩ := start
    cases strings with
    | outside =>
      rw [step_plain plain] at first
      exact Option.some.inj first
    | escaped quote => cases first
    | inside quote =>
      -- Only a quote ends a string, and no quote is white space.
      have ended : StringState.insideStep quote c = .outside :=
        congrArg Scanner.strings (Option.some.inj first)
      have isQuote := quoted quote rfl
      simp only [StringState.insideStep] at ended
      split at ended
      · cases ended
      · split at ended
        · rename_i same
          subst same
          simp only [Script.isQuote, Bool.or_eq_true, beq_iff_eq] at isQuote
          rcases isQuote with (rfl | rfl) | rfl <;> exact absurd (by decide) plain
        · cases ended

theorem Closed.trim {text : String} (closed : Closed text) : Closed (Text.trim text) := by
  obtain ⟨leading, trailing, split, before, after⟩ := Text.exists_space_around_trim text
  have start := Scanner.run_plain (fun c member => not_mem_marks_of_space (before c member)) []
  rw [Closed, Scans, split, Scanner.run_append, start] at closed
  rw [Option.bind_some, Scanner.run_append] at closed
  obtain ⟨between, own, rest⟩ := Option.bind_eq_some_iff.mp closed
  have quoted : between.strings.Quoted := by
    refine Scanner.quoted_run ?_ own
    rintro quote ⟨⟩
  rw [Scanner.eq_of_run_space quoted after rest] at own
  exact own

/-- Escaped literal text stays inside its single quotes. -/
theorem scans_escapeLiteral (text : String) (due : List Char) :
    Scans ⟨.inside '\'', due⟩ (Script.escapeLiteral text) ⟨.inside '\'', due⟩ := by
  have char : ∀ c, Scanner.run ⟨.inside '\'', due⟩ (Script.escapeLiteralChar c) =
      some ⟨.inside '\'', due⟩ := by
    intro c
    have form := Script.escapeLiteralChar_form c
    generalize Script.escapeLiteralChar c = written at form ⊢
    cases form with
    | plain other =>
      simp only [List.mem_cons, not_or] at other
      obtain ⟨backslash, quote, _⟩ := other
      rw [Scanner.run_cons, Scanner.step_inside, StringState.insideStep, if_neg backslash,
        if_neg quote]
      rfl
    | _ => rfl
  rw [Scans, Script.escapeLiteral, String.toList_ofList]
  induction text.toList with
  | nil => rfl
  | cons c cs ih =>
    rw [List.flatMap_cons, Scanner.run_append, char c]
    exact ih

theorem Script.Reader.advance_strings (reader : Reader) (c : Char) (next : Option Char) :
    (reader.advance c next).strings = reader.strings.next c := by
  have outside : (reader.advanceOutside c next).strings =
      if isQuote c then .inside c else reader.strings := by
    simp only [advanceOutside, apply_ite Reader.strings, ite_self]
  unfold advance StringState.next
  cases strings : reader.strings with
  | inside quote => rfl
  | escaped quote => rfl
  | outside => exact outside.trans (by rw [strings])

/-- Optional access marks stand outside of strings and change no bracket. -/
theorem Scanner.run_navigate {start finish : Scanner} {reader : Script.Reader} {cs : List Char}
    (same : reader.strings = start.strings) (run : start.run cs = some finish) :
    start.run (reader.navigate cs) = some finish := by
  induction cs generalizing start reader with
  | nil => exact run
  | cons c cs ih =>
    obtain ⟨next, first, rest⟩ := run_cons_eq_some run
    have sameNext : (reader.advance c cs.head?).strings = next.strings := by
      rw [Script.Reader.advance_strings, same, step_strings first]
    have tail : start.run (c :: (reader.advance c cs.head?).navigate cs) = some finish := by
      rw [run_cons, first]
      exact ih sameNext rest
    rw [Script.Reader.navigate]
    split
    · rename_i guards
      have outside : start.strings = .outside := by
        simp only [Script.Reader.guards, Bool.and_eq_true, beq_iff_eq] at guards
        rw [← same]
        exact guards.1.1.1
      obtain ⟨strings, due⟩ := start
      cases outside
      have marked : ∀ mark : List Char, (∀ d ∈ mark, d ∉ marks) →
          Scanner.run ⟨.outside, due⟩ (mark ++ c :: (reader.advance c cs.head?).navigate cs) = some finish := by
        intro mark plain
        rw [run_append, run_plain plain]
        exact tail
      split
      · exact marked ['?'] (by simp [marks])
      · exact marked ['?', '.'] (by simp [marks])
    · exact tail

theorem Closed.safeNavigation {text : String} (closed : Closed text) :
    Closed (Script.safeNavigation text) := by
  rw [Closed, Scans, Script.safeNavigation, String.toList_ofList]
  exact Scanner.run_navigate rfl closed

end TemplateCompiler
