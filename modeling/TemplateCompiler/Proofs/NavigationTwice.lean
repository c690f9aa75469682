import TemplateCompiler.Proofs.NavigationMarks

namespace TemplateCompiler.Script

/-- The characters that belong to no word, no string and no space: operators, brackets and dots. -/
def isPunctuation (c : Char) : Bool :=
  !isQuote c && !Text.isWhiteSpace c && !isIdentifierChar c

namespace Reader

theorem navigate_cons (reader : Reader) (c : Char) (cs : List Char) :
    reader.navigate (c :: cs) =
      reader.mark c cs.head? ++ c :: (reader.advance c cs.head?).navigate cs := rfl

theorem mark_eq_nil {reader : Reader} (noTarget : reader.endsAccessTarget = false) (c : Char)
    (next : Option Char) : reader.mark c next = [] := by
  rw [mark, guards, noTarget, Bool.and_false]
  rfl

theorem mark_plain {c : Char} (plain : c ≠ '.' ∧ c ≠ '[' ∧ c ≠ '(') (reader : Reader) (next : Option Char) :
    reader.mark c next = [] := by
  simp [mark, guards, startsAccess, plain]

theorem head?_navigate {reader : Reader} (noTarget : reader.endsAccessTarget = false) (cs : List Char) :
    (reader.navigate cs).head? = cs.head? := by
  cases cs with
  | nil => rfl
  | cons c cs =>
    rw [navigate_cons, mark_eq_nil noTarget]
    rfl

/-- Nothing is judged by the character after it but a dot outside of strings. -/
theorem lookahead_irrelevant {reader : Reader} {c : Char} (other : reader.strings ≠ .outside ∨ c ≠ '.')
    (next next' : Option Char) :
    reader.mark c next = reader.mark c next' ∧ reader.advance c next = reader.advance c next' := by
  rcases other with inside | notDot
  · constructor
    · simp [mark, guards, inside]
    · unfold advance
      split
      · contradiction
      · rfl
      · rfl
  · constructor
    · simp [mark, guards, startsAccess, notDot]
    · simp [advance, advanceOutside, notDot]

/-- The reader that remembers nothing but the character just before. -/
def fresh (c : Char) : Reader :=
  { last := some c, previous := some c }

theorem endsAccessTarget_fresh {c : Char} (opens : c ≠ ')' ∧ c ≠ ']') :
    (fresh c).endsAccessTarget = false := by
  simp [endsAccessTarget, fresh, opens]

/-- Punctuation starts anew. A dot and an index stay in the callee of a `new`, and a dot may belong to
a number. -/
theorem advance_punctuation {reader : Reader} {c : Char} (outside : reader.strings = .outside)
    (punctuation : isPunctuation c = true) (next : Option Char)
    (released : c = '.' ∨ c = '[' → reader.constructing = false)
    (whole : c = '.' → reader.inNumber = false) : reader.advance c next = fresh c := by
  simp only [isPunctuation, Bool.and_eq_true, Bool.not_eq_true'] at punctuation
  obtain ⟨⟨unquoted, visible⟩, noWord⟩ := punctuation
  rw [advance, outside]
  dsimp only
  rw [advanceOutside, unquoted, visible, noWord]
  by_cases dot : c = '.'
  · simp [dot, whole dot, released (.inl dot), outside, fresh]
  by_cases index : c = '['
  · simp [index, released (.inr index), outside, fresh]
  · simp [dot, index, outside, fresh]

theorem lookahead_navigate (reader : Reader) (c : Char) (cs : List Char) :
    reader.mark c ((reader.advance c cs.head?).navigate cs).head? = reader.mark c cs.head? ∧
      reader.advance c ((reader.advance c cs.head?).navigate cs).head? = reader.advance c cs.head? := by
  by_cases judged : reader.strings = .outside ∧ c = '.'
  · obtain ⟨outside, rfl⟩ := judged
    -- A dot is no value, so that no mark follows it.
    have noTarget : (reader.advance '.' cs.head?).endsAccessTarget = false := by
      have previous := advance_previous_outside outside '.' cs.head?
      have visible : Text.isWhiteSpace '.' = false ∧ isIdentifierChar '.' = false := by decide
      simp [endsAccessTarget, previous, visible]
    rw [head?_navigate noTarget]
    exact ⟨rfl, rfl⟩
  · exact lookahead_irrelevant (Decidable.not_and_iff_or_not.mp judged) _ _

/-- What a reader knows where it makes an access optional. -/
theorem guards_cases {reader : Reader} {c : Char} {next : Option Char}
    (guards : reader.guards c next = true) :
    reader.strings = .outside ∧ reader.constructing = false ∧ reader.endsAccessTarget = true ∧
      ((c = '[' ∨ c = '(') ∨ c = '.' ∧ reader.inNumber = false) := by
  simp only [Reader.guards, startsAccess, Bool.and_eq_true, Bool.or_eq_true, beq_iff_eq,
    Bool.not_eq_true'] at guards
  obtain ⟨⟨⟨outside, starts⟩, released⟩, target⟩ := guards
  refine ⟨outside, released, target, ?_⟩
  rcases starts with bracket | ⟨⟨⟨dot, _⟩, whole⟩, _⟩
  · exact .inl bracket
  · exact .inr ⟨dot, whole⟩

theorem advance_of_guards {reader : Reader} {c : Char} {next : Option Char}
    (guards : reader.guards c next = true) : reader.advance c next = fresh c := by
  obtain ⟨outside, released, _, access⟩ := guards_cases guards
  rcases access with (rfl | rfl) | ⟨rfl, whole⟩
  · exact advance_punctuation outside (by decide) next (fun _ => released) (by simp)
  · exact advance_punctuation outside (by decide) next (by simp) (by simp)
  · exact advance_punctuation outside (by decide) next (fun _ => released) (fun _ => whole)

theorem navigate_fresh {before c : Char} (opens : before ≠ ')' ∧ before ≠ ']')
    (punctuation : isPunctuation c = true) (rest : List Char) :
    (fresh before).navigate (c :: rest) = c :: (fresh c).navigate rest := by
  rw [navigate_cons, mark_eq_nil (endsAccessTarget_fresh opens),
    advance_punctuation rfl punctuation _ (fun _ => rfl) (fun _ => rfl)]
  rfl

/-- A reader passes over an access that has its mark already, and it is then where it is after an
access that it marks itself. -/
theorem navigate_marked {reader : Reader} {c : Char} {next : Option Char}
    (guards : reader.guards c next = true) (rest : List Char) :
    reader.navigate (accessMark c ++ c :: rest) = accessMark c ++ c :: (fresh c).navigate rest := by
  obtain ⟨outside, _, _, access⟩ := guards_cases guards
  have question : ∀ cs, reader.navigate ('?' :: cs) = '?' :: (fresh '?').navigate cs := by
    intro cs
    rw [navigate_cons, mark_plain (by decide), advance_punctuation outside (by decide) _ (by simp) (by simp)]
    rfl
  rcases access with bracket | ⟨rfl, _⟩
  · have mark : accessMark c = ['?', '.'] := by rcases bracket with rfl | rfl <;> rfl
    have punctuation : isPunctuation c = true := by rcases bracket with rfl | rfl <;> decide
    rw [mark, List.cons_append, List.cons_append, List.nil_append, question,
      navigate_fresh (by decide) (by decide), navigate_fresh (by decide) punctuation]
    rfl
  · rw [accessMark, if_pos rfl, List.singleton_append, question, navigate_fresh (by decide) (by decide)]
    rfl

/-- A second pass over an expression adds nothing to the first. -/
theorem navigate_navigate (reader : Reader) (cs : List Char) :
    reader.navigate (reader.navigate cs) = reader.navigate cs := by
  induction cs generalizing reader with
  | nil => rfl
  | cons c cs ih =>
    obtain ⟨sameMark, sameReader⟩ := reader.lookahead_navigate c cs
    rw [navigate_cons, mark]
    split
    · rename_i guards
      rw [navigate_marked guards, ← advance_of_guards guards, ih]
    · rename_i silent
      have unmarked : reader.mark c cs.head? = [] := if_neg silent
      rw [List.nil_append, navigate_cons, sameMark, sameReader, unmarked, ih]
      rfl

end Reader

/-- Making accesses optional changes nothing where they are optional already. -/
theorem safeNavigation_idempotent (expression : String) :
    safeNavigation (safeNavigation expression) = safeNavigation expression := by
  rw [safeNavigation, safeNavigation, String.toList_ofList, Reader.navigate_navigate]

end TemplateCompiler.Script
