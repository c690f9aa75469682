import TemplateCompiler.Proofs.NavigationTwice

namespace TemplateCompiler.Script

/-- What the text between two quotes is made of. -/
inductive QuotedPiece where
  | bare (c : Char)
  /-- A backslash and the character that it hides. -/
  | pair (c : Char)
  /-- A backslash with nothing after it. -/
  | lone
  deriving DecidableEq, Repr

/-- Cuts a text from the left into backslash pairs and single characters. -/
def quotedPieces : List Char → List QuotedPiece
  | [] => []
  | ['\\'] => [.lone]
  | '\\' :: c :: cs => .pair c :: quotedPieces cs
  | c :: cs => .bare c :: quotedPieces cs

/-- The pair that stands for a piece which could not stand in a string by itself. -/
def QuotedPiece.escaped : QuotedPiece → QuotedPiece
  | .bare '\'' => .pair '\''
  | .bare '\n' => .pair 'n'
  | .bare '\r' => .pair 'r'
  | .lone => .pair '\\'
  | piece => piece

theorem ne_backslash_of_unpaired {c : Char} {cs : List Char} (alone : c = '\\' → cs = [] → False)
    (paired : ∀ d ds, c = '\\' → cs = d :: ds → False) : c ≠ '\\' := by
  intro backslash
  cases cs with
  | nil => exact alone backslash rfl
  | cons d ds => exact paired d ds backslash rfl

theorem quotedPieces_bare {c : Char} (plain : c ≠ '\\') (cs : List Char) :
    quotedPieces (c :: cs) = .bare c :: quotedPieces cs := by
  rw [quotedPieces]
  · simp [plain]
  · simp [plain]

theorem quotedPieces_escapeBareChar {c : Char} (plain : c ≠ '\\') (cs : List Char) :
    quotedPieces (escapeBareChar c ++ cs) = (QuotedPiece.bare c).escaped :: quotedPieces cs := by
  unfold escapeBareChar
  split
  · rename_i quote
    subst quote
    rfl
  split
  · rename_i lineFeed
    subst lineFeed
    rfl
  split
  · rename_i carriageReturn
    subst carriageReturn
    rfl
  · rename_i quote lineFeed carriageReturn
    have kept : (QuotedPiece.bare c).escaped = .bare c := by
      unfold QuotedPiece.escaped
      grind
    rw [kept]
    exact quotedPieces_bare plain cs

theorem quotedPieces_escapeFragmentChars (cs rest : List Char) :
    quotedPieces (escapeFragmentChars cs ++ rest) =
      (quotedPieces cs).map QuotedPiece.escaped ++ quotedPieces rest := by
  fun_induction escapeFragmentChars cs with
  | case1 => rfl
  | case2 => rfl
  | case3 c cs ih =>
    rw [List.cons_append, List.cons_append, quotedPieces, ih, quotedPieces]
    rfl
  | case4 c cs alone paired ih =>
    have plain := ne_backslash_of_unpaired alone paired
    rw [List.append_assoc, quotedPieces_escapeBareChar plain, ih, quotedPieces_bare plain]
    rfl

/-- The text stays in a string that the quote has opened. -/
def StaysQuoted (quote : Char) (cs : List Char) : Prop :=
  ∀ piece ∈ quotedPieces cs, piece ≠ .lone ∧ piece ≠ .bare quote

instance (quote : Char) (cs : List Char) : Decidable (StaysQuoted quote cs) :=
  inferInstanceAs (Decidable (∀ piece ∈ quotedPieces cs, piece ≠ .lone ∧ piece ≠ .bare quote))

theorem stringEnd?_append (before : List Char) (c : Char) (rest : List Char) (quote : Char) :
    stringEnd? (before ++ c :: rest) quote before.length =
      if c = '\\' then stringEnd? (before ++ c :: rest) quote (before.length + 2)
      else if c = quote then some (before.length + 1)
      else stringEnd? (before ++ c :: rest) quote (before.length + 1) := by
  have here : (before ++ c :: rest)[before.length]? = some c := by simp
  obtain ⟨within, _⟩ := List.getElem?_eq_some_iff.mp here
  rw [stringEnd?, if_pos within, here]

/-- A string ends just after the quote that follows its content, whatever comes then. -/
theorem stringEnd?_of_staysQuoted {quote : Char} (plain : quote ≠ '\\') {content : List Char}
    (stays : StaysQuoted quote content) (before after : List Char) :
    stringEnd? (before ++ (content ++ quote :: after)) quote before.length =
      some (before.length + content.length + 1) := by
  unfold StaysQuoted at stays
  fun_induction quotedPieces content generalizing before with
  | case1 =>
    rw [List.nil_append, stringEnd?_append, if_neg plain, if_pos rfl]
    rfl
  | case2 => exact absurd rfl (stays .lone List.mem_cons_self).1
  | case3 c cs ih =>
    obtain ⟨_, rest⟩ := List.forall_mem_cons.mp stays
    have later := ih rest (before ++ ['\\', c])
    rw [List.cons_append, stringEnd?_append, if_pos rfl]
    simp only [List.length_append, List.length_cons, List.length_nil, List.append_assoc,
      List.cons_append, List.nil_append] at later ⊢
    rw [later]
    exact congrArg some (by omega)
  | case4 c cs alone paired ih =>
    obtain ⟨here, rest⟩ := List.forall_mem_cons.mp stays
    have other : c ≠ quote := fun same => here.2 (congrArg QuotedPiece.bare same)
    have later := ih rest (before ++ [c])
    rw [List.cons_append, stringEnd?_append, if_neg (ne_backslash_of_unpaired alone paired), if_neg other]
    simp only [List.length_append, List.length_cons, List.length_nil, List.append_assoc,
      List.cons_append, List.nil_append] at later ⊢
    rw [later]
    exact congrArg some (by omega)

theorem skipString?_of_staysQuoted {quote : Char} (plain : quote ≠ '\\') {content : List Char}
    (stays : StaysQuoted quote content) (before after : List Char) :
    skipString? (before ++ (quote :: content ++ [quote]) ++ after) before.length =
      some (before.length + (quote :: content ++ [quote]).length) := by
  have ends := stringEnd?_of_staysQuoted plain stays (before ++ [quote]) after
  have here : (before ++ (quote :: content ++ [quote]) ++ after)[before.length]? = some quote := by simp
  simp only [List.length_append, List.length_cons, List.length_nil, List.append_assoc,
    List.cons_append, List.nil_append] at ends here ⊢
  rw [skipString?, here]
  rw [Nat.zero_add] at ends
  refine ends.trans (congrArg some ?_)
  omega

/-- The reader just after a string that the quote opened and closed. -/
def Reader.afterString (reader : Reader) (quote : Char) : Reader :=
  { reader with last := some quote, previous := some quote, word := [] }

/-- A string is passed over as it is. -/
theorem Reader.navigate_string {reader : Reader} (outside : reader.strings = .outside) {content : List Char}
    (stays : StaysQuoted '\'' content) (rest : List Char) :
    reader.navigate ('\'' :: content ++ ['\''] ++ rest) =
      '\'' :: content ++ ['\''] ++ (reader.afterString '\'').navigate rest := by
  let cs := content ++ '\'' :: rest
  have opened : (reader.advance '\'' cs.head?).strings = .inside '\'' := by
    rw [advance_strings, outside]
    rfl
  have ends : stringEnd? cs '\'' 0 = some (content.length + 1) := by
    have found := stringEnd?_of_staysQuoted (by decide) stays [] rest
    rwa [List.nil_append, List.length_nil, Nat.zero_add] at found
  have inside : cs.extract 0 (content.length + 1) = content ++ ['\''] := by
    simp [cs, List.take_append, List.take_of_length_le]
  have later : cs.drop (content.length + 1) = rest := by simp [cs]
  have left : (reader.advance '\'' cs.head?).placed cs (content.length + 1) = reader.afterString '\'' := by
    have last : charBefore? cs (content.length + 1) = some '\'' := by simp [charBefore?, cs]
    have quoted : isQuote '\'' = true := by decide
    rw [placed, last]
    simp [advance, outside, advanceOutside, quoted, afterString]
  have read := navigate_inside opened ends
  rw [inside, later, left, List.drop_zero] at read
  have text : '\'' :: content ++ ['\''] ++ rest = '\'' :: cs := by simp [cs]
  rw [text, navigate_cons, mark_plain (by decide), read]
  simp

end TemplateCompiler.Script
