import TemplateCompiler.Json.Value

namespace TemplateCompiler.Json

/-- Blanks may stand around every value, key and mark of punctuation. -/
def Blank (cs : List Char) : Prop :=
  ∀ c ∈ cs, c ∈ [' ', '\t', '\n', '\r']

structure DigitsText (digits : List Nat) (cs : List Char) : Prop where
  nonempty : digits ≠ []
  decimal : ∀ digit ∈ digits, digit < 10
  text : cs = digits.map Nat.digitChar

inductive FractionText : List Nat → List Char → Prop
  | absent : FractionText [] []
  | point {digits : List Nat} {cs : List Char} : DigitsText digits cs → FractionText digits ('.' :: cs)

inductive SignText : Int → List Char → Prop
  | absent : SignText 1 []
  | plus : SignText 1 ['+']
  | minus : SignText (-1) ['-']

inductive ExponentText : Option Int → List Char → Prop
  | absent : ExponentText none []
  | power {mark : Char} {sign : Int} {digits : List Nat} {signText cs : List Char} :
      mark ∈ ['e', 'E'] → SignText sign signText → DigitsText digits cs →
      ExponentText (some (sign * Numeral.ofDigits digits)) (mark :: (signText ++ cs))

/-- How a number is written. A leading zero stands alone. -/
inductive NumeralText : Numeral → List Char → Prop
  | parts {negative : Bool} {whole fraction : List Nat} {exponent : Option Int}
      {wholeText fractionText exponentText : List Char} :
      DigitsText whole wholeText → (whole.head? = some 0 → whole = [0]) →
      FractionText fraction fractionText → ExponentText exponent exponentText →
      NumeralText ⟨negative, whole, fraction, exponent⟩
        ((if negative then ['-'] else []) ++ (wholeText ++ (fractionText ++ exponentText)))

/-- The letters that stand after a backslash for one character. -/
def shortEscapes : List (Char × Char) :=
  [('"', '"'), ('\\', '\\'), ('/', '/'), ('b', '\x08'), ('f', '\x0c'), ('n', '\n'), ('r', '\r'), ('t', '\t')]

/-- A hexadecimal digit in either case. -/
def HexDigit (value : Nat) (c : Char) : Prop :=
  "0123456789abcdef".toList[value]? = some c ∨ "0123456789ABCDEF".toList[value]? = some c

/-- How a string is written between its quotes. -/
inductive StringText : List Piece → List Char → Prop
  | empty : StringText [] []
  | plain {c : Char} {pieces : List Piece} {cs : List Char} :
      ' ' ≤ c → c ≠ '"' → c ≠ '\\' → StringText pieces cs → StringText (.char c :: pieces) (c :: cs)
  | short {letter c : Char} {pieces : List Piece} {cs : List Char} :
      (letter, c) ∈ shortEscapes → StringText pieces cs →
      StringText (.char c :: pieces) ('\\' :: letter :: cs)
  | long {first second third fourth : Nat} {a b c d : Char} {pieces : List Piece} {cs : List Char} :
      HexDigit first a → HexDigit second b → HexDigit third c → HexDigit fourth d →
      StringText pieces cs →
      StringText (.unit (((first * 16 + second) * 16 + third) * 16 + fourth) :: pieces)
        ('\\' :: 'u' :: a :: b :: c :: d :: cs)

/-- What the grammar has rules for. -/
inductive Phrase where
  | value (tree : Tree)
  /-- A value with the blanks around it. -/
  | element (tree : Tree)
  /-- The items of an array that is not empty. -/
  | elements (items : List Tree)
  | member (key : List Piece) (tree : Tree)
  /-- The members of an object that is not empty. -/
  | members (fields : List (List Piece × Tree))

/-- The grammar of JSON. -/
inductive Phrase.WrittenAs : Phrase → List Char → Prop
  | null : WrittenAs (.value .null) ['n', 'u', 'l', 'l']
  | bool (value : Bool) : WrittenAs (.value (.bool value))
      (if value then ['t', 'r', 'u', 'e'] else ['f', 'a', 'l', 's', 'e'])
  | number {numeral : Numeral} {cs : List Char} : NumeralText numeral cs →
      WrittenAs (.value (.number numeral)) cs
  | string {pieces : List Piece} {cs : List Char} : StringText pieces cs →
      WrittenAs (.value (.string pieces)) ('"' :: (cs ++ ['"']))
  | emptyArray {cs : List Char} : Blank cs → WrittenAs (.value (.array [] true)) ('[' :: (cs ++ [']']))
  | array {items : List Tree} {cs : List Char} : WrittenAs (.elements items) cs →
      WrittenAs (.value (.array items true)) ('[' :: (cs ++ [']']))
  | emptyObject {cs : List Char} : Blank cs →
      WrittenAs (.value (.object [] true)) ('\x7b' :: (cs ++ ['\x7d']))
  | object {fields : List (List Piece × Tree)} {cs : List Char} : WrittenAs (.members fields) cs →
      WrittenAs (.value (.object fields true)) ('\x7b' :: (cs ++ ['\x7d']))
  | element {tree : Tree} {before cs after : List Char} : Blank before → WrittenAs (.value tree) cs →
      Blank after → WrittenAs (.element tree) (before ++ (cs ++ after))
  | lastItem {tree : Tree} {cs : List Char} : WrittenAs (.element tree) cs →
      WrittenAs (.elements [tree]) cs
  | item {tree : Tree} {items : List Tree} {cs rest : List Char} : WrittenAs (.element tree) cs →
      WrittenAs (.elements items) rest → WrittenAs (.elements (tree :: items)) (cs ++ ',' :: rest)
  | member {key : List Piece} {tree : Tree} {before name after cs : List Char} : Blank before →
      StringText key name → Blank after → WrittenAs (.element tree) cs →
      WrittenAs (.member key tree) (before ++ '"' :: (name ++ '"' :: (after ++ ':' :: cs)))
  | lastField {key : List Piece} {tree : Tree} {cs : List Char} : WrittenAs (.member key tree) cs →
      WrittenAs (.members [(key, tree)]) cs
  | field {key : List Piece} {tree : Tree} {fields : List (List Piece × Tree)} {cs rest : List Char} :
      WrittenAs (.member key tree) cs → WrittenAs (.members fields) rest →
      WrittenAs (.members ((key, tree) :: fields)) (cs ++ ',' :: rest)

/-- A value without blanks around it. -/
theorem Phrase.WrittenAs.bare {tree : Tree} {cs : List Char} (written : (Phrase.value tree).WrittenAs cs) :
    (Phrase.element tree).WrittenAs cs := by
  have blank : Blank [] := by simp [Blank]
  have padded := WrittenAs.element blank written blank
  rw [List.nil_append, List.append_nil] at padded
  exact padded

namespace Token

theorem readAll_blank {c : Char} (blank : c ∈ [' ', '\t', '\n', '\r']) (cs : List Char) :
    readAll (c :: cs) = readAll cs := by
  have space : isSpace c = true := by simpa [isSpace, or_assoc] using blank
  rw [readAll, if_pos space]

theorem readAll_blanks {before : List Char} (blank : Blank before) (cs : List Char) :
    readAll (before ++ cs) = readAll cs := by
  induction before with
  | nil => rfl
  | cons c before ih =>
    rw [List.cons_append, readAll_blank (blank c List.mem_cons_self)]
    exact ih fun d member => blank d (List.mem_cons_of_mem c member)

theorem readAll_word {c : Char} {cs rest : List Char} {token : Token} (visible : isSpace c = false)
    (found : read? c cs = some (token, rest)) : readAll (c :: cs) = token :: readAll rest := by
  rw [readAll, if_neg (by simp [visible])]
  split
  · rename_i missing
    cases missing.symm.trans found
  · rename_i same
    cases same.symm.trans found
    rfl

theorem readAll_punctuation {c : Char} {token : Token} (mark : punctuation? c = some token)
    (cs : List Char) : readAll (c :: cs) = token :: readAll cs := by
  have visible : isSpace c = false := by
    cases space : isSpace c with
    | false => rfl
    | true =>
      simp only [isSpace, Bool.or_eq_true, beq_iff_eq] at space
      rcases space with ((rfl | rfl) | rfl) | rfl <;> cases mark
  exact readAll_word visible (by rw [read?, mark])

/-- The text goes on with nothing that could belong to a number. -/
def EndsNumber (rest : List Char) : Prop :=
  ∀ c ∈ rest.head?, c.isDigit = false ∧ c ∉ ['.', 'e', 'E']

theorem digitChar_decimal : ∀ digit < 10, (Nat.digitChar digit).isDigit = true ∧
    (Nat.digitChar digit).toNat - 48 = digit := by
  decide

theorem readDigits_text {digits : List Nat} {cs rest : List Char} (text : DigitsText digits cs)
    (ends : ∀ c ∈ rest.head?, c.isDigit = false) : readDigits (cs ++ rest) = (digits, rest) := by
  obtain ⟨_, decimal, rfl⟩ := text
  have isDigit : ∀ c ∈ digits.map Nat.digitChar, c.isDigit = true := by
    intro c member
    obtain ⟨digit, written, rfl⟩ := List.mem_map.mp member
    exact (digitChar_decimal digit (decimal digit written)).1
  have value : ∀ digit ∈ digits, (Nat.digitChar digit).toNat - 48 = digit := fun digit written =>
    (digitChar_decimal digit (decimal digit written)).2
  have stop : rest.takeWhile Char.isDigit = [] ∧ rest.dropWhile Char.isDigit = rest := by
    cases rest with
    | nil => exact ⟨rfl, rfl⟩
    | cons c rest => simp [ends c rfl]
  rw [readDigits, List.takeWhile_append_of_pos isDigit, List.dropWhile_append_of_pos isDigit, stop.1,
    stop.2, List.append_nil, List.map_map]
  simp only [Prod.mk.injEq, and_true]
  exact (List.map_congr_left value).trans (List.map_id digits)

theorem readFraction?_text {digits : List Nat} {cs rest : List Char} (text : FractionText digits cs)
    (ends : ∀ c ∈ rest.head?, c.isDigit = false ∧ c ≠ '.') :
    readFraction? (cs ++ rest) = some (digits, rest) := by
  cases text with
  | absent =>
    cases rest with
    | nil => rfl
    | cons c rest =>
      have notPoint := (ends c rfl).2
      simp [readFraction?, notPoint]
  | point written =>
    have nonempty := written.nonempty
    have read := readDigits_text written fun c first => (ends c first).1
    simp [readFraction?, read, nonempty]

theorem readSign_text {sign : Int} {digits : List Nat} {signText cs : List Char}
    (text : SignText sign signText) (number : DigitsText digits cs) (rest : List Char) :
    readSign (signText ++ (cs ++ rest)) = (sign, cs ++ rest) := by
  cases text with
  | plus => rfl
  | minus => rfl
  | absent =>
    obtain ⟨nonempty, decimal, rfl⟩ := number
    cases digits with
    | nil => contradiction
    | cons digit digits =>
      have unsigned : ∀ digit < 10, Nat.digitChar digit ≠ '+' ∧ Nat.digitChar digit ≠ '-' := by decide
      have first := unsigned digit (decimal digit List.mem_cons_self)
      simp [readSign, first]

theorem readExponent?_text {exponent : Option Int} {cs rest : List Char} (text : ExponentText exponent cs)
    (ends : EndsNumber rest) : readExponent? (cs ++ rest) = some (exponent, rest) := by
  cases text with
  | absent =>
    cases rest with
    | nil => rfl
    | cons c rest =>
      have unmarked := (ends c rfl).2
      simp only [List.mem_cons, not_or] at unmarked
      simp [readExponent?, unmarked]
  | power mark sign number =>
    have nonempty := number.nonempty
    have read := readDigits_text number fun c first => (ends c first).1
    have signed := readSign_text sign number rest
    simp only [List.mem_cons, List.not_mem_nil, or_false] at mark
    simp [readExponent?, mark, signed, read, nonempty]

theorem FractionText.endsDigits {digits : List Nat} {cs rest : List Char} (text : FractionText digits cs)
    (ends : ∀ c ∈ rest.head?, c.isDigit = false) : ∀ c ∈ (cs ++ rest).head?, c.isDigit = false := by
  cases text with
  | absent => exact ends
  | point _ =>
    rintro c ⟨⟩
    rfl

theorem ExponentText.endsFraction {exponent : Option Int} {cs rest : List Char}
    (text : ExponentText exponent cs) (ends : EndsNumber rest) :
    ∀ c ∈ (cs ++ rest).head?, c.isDigit = false ∧ c ≠ '.' := by
  cases text with
  | absent =>
    intro c first
    obtain ⟨noDigit, unmarked⟩ := ends c first
    exact ⟨noDigit, fun point => unmarked (by simp [point])⟩
  | power mark _ _ =>
    rintro c ⟨⟩
    simp only [List.mem_cons, List.not_mem_nil, or_false] at mark
    rcases mark with rfl | rfl <;> decide

theorem readNumeral?_text {negative : Bool} {whole fraction : List Nat} {exponent : Option Int}
    {wholeText fractionText exponentText rest : List Char} (digits : DigitsText whole wholeText)
    (leading : whole.head? = some 0 → whole = [0]) (point : FractionText fraction fractionText)
    (power : ExponentText exponent exponentText) (ends : EndsNumber rest) :
    readNumeral? negative (wholeText ++ (fractionText ++ (exponentText ++ rest))) =
      some (⟨negative, whole, fraction, exponent⟩, rest) := by
  have afterFraction := ExponentText.endsFraction power ends
  have afterWhole := FractionText.endsDigits point fun c first => (afterFraction c first).1
  have accepted : (whole.isEmpty || (whole.head? == some 0 && whole.length != 1)) = false := by
    have nonempty := digits.nonempty
    by_cases zero : whole.head? = some 0
    · simp [leading zero]
    · simp [nonempty, zero]
  simp [readNumeral?, readDigits_text digits afterWhole, readFraction?_text point afterFraction,
    readExponent?_text power ends, accepted]

theorem readAll_number {numeral : Numeral} {cs rest : List Char} (text : NumeralText numeral cs)
    (ends : EndsNumber rest) : readAll (cs ++ rest) = .number numeral :: readAll rest := by
  obtain ⟨digits, leading, point, power⟩ := text
  rename_i negative whole fraction exponent wholeText fractionText exponentText
  have read := @readNumeral?_text negative _ _ _ _ _ _ _ digits leading point power ends
  cases negative with
  | true =>
    have found : read? '-' (wholeText ++ (fractionText ++ (exponentText ++ rest))) =
        some (.number ⟨true, whole, fraction, exponent⟩, rest) := by
      have unmarked : punctuation? '-' = none := rfl
      rw [read?, unmarked, if_neg (by decide), if_pos rfl, read]
      rfl
    simpa using readAll_word rfl found
  | false =>
    obtain ⟨nonempty, decimal, rfl⟩ := digits
    cases whole with
    | nil => contradiction
    | cons digit digits =>
      have plain : ∀ digit < 10, punctuation? (Nat.digitChar digit) = none ∧
          Nat.digitChar digit ≠ '"' ∧ Nat.digitChar digit ≠ '-' ∧
          (Nat.digitChar digit).isDigit = true ∧ isSpace (Nat.digitChar digit) = false := by decide
      obtain ⟨unmarked, unquoted, unsigned, isDigit, visible⟩ := plain digit (decimal digit List.mem_cons_self)
      have found : read? (Nat.digitChar digit)
          (digits.map Nat.digitChar ++ (fractionText ++ (exponentText ++ rest))) =
          some (.number ⟨false, digit :: digits, fraction, exponent⟩, rest) := by
        rw [read?, unmarked, if_neg unquoted, if_neg unsigned, if_pos isDigit]
        exact congrArg (Option.map _) read
      simpa using readAll_word visible found

theorem hexValue?_of_hexDigit {value : Nat} {c : Char} (digit : HexDigit value c) :
    Text.hexValue? c = some value := by
  have small : value < 16 := by
    rcases digit with lower | upper
    · exact (List.getElem?_eq_some_iff.mp lower).1
    · exact (List.getElem?_eq_some_iff.mp upper).1
  have values : ∀ value < 16,
      "0123456789abcdef".toList[value]?.map Text.hexValue? = some (some value) ∧
      "0123456789ABCDEF".toList[value]?.map Text.hexValue? = some (some value) := by decide
  obtain ⟨lowerValue, upperValue⟩ := values value small
  rcases digit with lower | upper
  · rw [lower] at lowerValue
    exact Option.some.inj lowerValue
  · rw [upper] at upperValue
    exact Option.some.inj upperValue

theorem readString?_text {pieces : List Piece} {cs : List Char} (text : StringText pieces cs)
    (rest : List Char) : readString? (cs ++ '"' :: rest) = some (pieces, rest) := by
  induction text with
  | empty => rfl
  | @plain c _ _ visible quote backslash _ ih =>
    have shown : ¬ c < ' ' := Char.not_lt.mpr visible
    simp [readString?, backslash, shown, ih]
  | short escape _ ih =>
    simp only [shortEscapes, List.mem_cons, Prod.mk.injEq, List.not_mem_nil, or_false] at escape
    rcases escape with ⟨rfl, rfl⟩ | ⟨rfl, rfl⟩ | ⟨rfl, rfl⟩ | ⟨rfl, rfl⟩ | ⟨rfl, rfl⟩ | ⟨rfl, rfl⟩ |
      ⟨rfl, rfl⟩ | ⟨rfl, rfl⟩ <;> simp [readString?, shortEscape?, ih]
  | long first second third fourth _ ih =>
    simp [readString?, hexCode?, hexValue?_of_hexDigit first, hexValue?_of_hexDigit second,
      hexValue?_of_hexDigit third, hexValue?_of_hexDigit fourth, ih]

theorem readAll_string {pieces : List Piece} {cs : List Char} (text : StringText pieces cs)
    (rest : List Char) : readAll ('"' :: (cs ++ '"' :: rest)) = .string pieces :: readAll rest := by
  have found : read? '"' (cs ++ '"' :: rest) = some (.string pieces, rest) := by
    have plain : punctuation? '"' = none := rfl
    rw [read?, plain, if_pos rfl, readString?_text text]
    rfl
  exact readAll_word rfl found

end Token

namespace Tree

/-- How far a reader has come after the words of more text. -/
def Progress.through (progress : Progress) (cs : List Char) : Progress :=
  (Token.readAll cs).foldl step progress

/-- A value is awaited in the given frames. In a new array there may be none. -/
def Progress.AwaitsValue (progress : Progress) (frames : List Frame) : Prop :=
  ∀ token, token ≠ .closeArray → progress.step token = startValue frames token

/-- The key of the next member is awaited. -/
def Progress.AwaitsKey (progress : Progress) (frames : List Frame) (members : List (List Piece × Tree)) :
    Prop :=
  ∀ pieces, progress.step (.string pieces) = colon frames members pieces

namespace Progress

theorem through_blanks {before : List Char} (blank : Blank before) (progress : Progress) (cs : List Char) :
    progress.through (before ++ cs) = progress.through cs := by
  rw [through, Token.readAll_blanks blank]
  rfl

theorem through_punctuation {c : Char} (token : Token) (mark : Token.punctuation? c = some token)
    (progress : Progress) (cs : List Char) : progress.through (c :: cs) = (progress.step token).through cs := by
  rw [through, Token.readAll_punctuation mark]
  rfl

theorem through_string {pieces : List Piece} {cs : List Char} (text : StringText pieces cs)
    (progress : Progress) (rest : List Char) :
    progress.through ('"' :: (cs ++ '"' :: rest)) = (progress.step (.string pieces)).through rest := by
  rw [through, Token.readAll_string text]
  rfl

theorem through_number {numeral : Numeral} {cs rest : List Char} (text : NumeralText numeral cs)
    (ends : Token.EndsNumber rest) (progress : Progress) :
    progress.through (cs ++ rest) = (progress.step (.number numeral)).through rest := by
  rw [through, Token.readAll_number text ends]
  rfl

theorem awaitsValue_value (frames : List Frame) : (value frames).AwaitsValue frames :=
  fun _ _ => rfl

theorem awaitsValue_arrayStart (frames : List Frame) :
    (arrayStart frames).AwaitsValue (.array [] :: frames) := by
  intro token other
  cases token with
  | closeArray => contradiction
  | _ => rfl

theorem AwaitsValue.through {progress : Progress} {frames : List Frame} (awaits : progress.AwaitsValue frames)
    {c : Char} {cs rest : List Char} (visible : Token.isSpace c = false) (token : Token)
    (found : Token.read? c cs = some (token, rest)) (other : token ≠ .closeArray) :
    progress.through (c :: cs) = (startValue frames token).through rest := by
  rw [Progress.through, Token.readAll_word visible found, ← awaits token other]
  rfl

end Progress

end Tree

open TemplateCompiler.Json.Tree (Progress)
open TemplateCompiler.Json.Token (EndsNumber)

/-- What a reader of words makes of a phrase: it goes on after the phrase with what it has read. -/
def Phrase.Advances : Phrase → List Char → Prop
  | value tree, cs | element tree, cs =>
    ∀ progress frames rest, Progress.AwaitsValue progress frames → EndsNumber rest →
      progress.through (cs ++ rest) = (Progress.afterValue frames tree).through rest
  | elements items, cs =>
    ∀ progress frames before rest, Progress.AwaitsValue progress (.array before :: frames) →
      progress.through (cs ++ ']' :: rest) =
        (Progress.afterValue frames (.array (before.reverse ++ items) true)).through rest
  | member key tree, cs =>
    ∀ progress frames before rest, Progress.AwaitsKey progress frames before → EndsNumber rest →
      progress.through (cs ++ rest) = (Progress.afterValue (.object before key :: frames) tree).through rest
  | members fields, cs =>
    ∀ progress frames before rest, Progress.AwaitsKey progress frames before →
      progress.through (cs ++ '\x7d' :: rest) =
        (Progress.afterValue frames (.object (before.reverse ++ fields) true)).through rest

theorem Token.endsNumber_cons {c : Char} (plain : c ∈ [' ', '\t', '\n', '\r', ',', ']', '\x7d'])
    (rest : List Char) : EndsNumber (c :: rest) := by
  rintro d ⟨⟩
  simp only [List.mem_cons, List.not_mem_nil, or_false] at plain
  rcases plain with rfl | rfl | rfl | rfl | rfl | rfl | rfl <;> decide

theorem Blank.endsNumber {cs rest : List Char} (blank : Blank cs) (ends : EndsNumber rest) :
    EndsNumber (cs ++ rest) := by
  cases cs with
  | nil => exact ends
  | cons c cs =>
    exact Token.endsNumber_cons (List.mem_append_left [',', ']', '\x7d'] (blank c List.mem_cons_self)) _

/-- The reader of words follows the grammar. -/
theorem Phrase.WrittenAs.advances {phrase : Phrase} {cs : List Char} (written : phrase.WrittenAs cs) :
    phrase.Advances cs := by
  -- The text after a phrase is left open, since a number only ends with the character after it.
  induction written with
  | null =>
    intro progress frames rest awaits _
    exact awaits.through rfl .null rfl (by decide)
  | bool value =>
    intro progress frames rest awaits _
    cases value with
    | true => exact awaits.through rfl (.bool true) rfl (by decide)
    | false => exact awaits.through rfl (.bool false) rfl (by decide)
  | number text =>
    intro progress frames rest awaits ends
    rw [Progress.through_number text ends, awaits _ (by simp)]
    rfl
  | string text =>
    intro progress frames rest awaits _
    rw [List.cons_append, List.append_assoc, List.singleton_append, Progress.through_string text,
      awaits _ (by simp)]
    rfl
  | emptyArray blank =>
    intro progress frames rest awaits _
    rw [List.cons_append, List.append_assoc, List.singleton_append,
      Progress.through_punctuation .openArray rfl, awaits _ (by simp), Progress.through_blanks blank,
      Progress.through_punctuation .closeArray rfl]
    rfl
  | array _ ih =>
    intro progress frames rest awaits _
    rw [List.cons_append, List.append_assoc, List.singleton_append,
      Progress.through_punctuation .openArray rfl, awaits _ (by simp)]
    exact ih _ frames [] rest (Progress.awaitsValue_arrayStart frames)
  | emptyObject blank =>
    intro progress frames rest awaits _
    rw [List.cons_append, List.append_assoc, List.singleton_append,
      Progress.through_punctuation .openObject rfl, awaits _ (by simp), Progress.through_blanks blank,
      Progress.through_punctuation .closeObject rfl]
    rfl
  | object _ ih =>
    intro progress frames rest awaits _
    rw [List.cons_append, List.append_assoc, List.singleton_append,
      Progress.through_punctuation .openObject rfl, awaits _ (by simp)]
    exact ih _ frames [] rest fun _ => rfl
  | element before _ after ih =>
    intro progress frames rest awaits ends
    rw [List.append_assoc, List.append_assoc, Progress.through_blanks before,
      ih progress frames _ awaits (after.endsNumber ends), Progress.through_blanks after]
  | lastItem _ ih =>
    intro progress frames before rest awaits
    rw [ih progress _ _ awaits (Token.endsNumber_cons (by simp) rest),
      Progress.through_punctuation .closeArray rfl, ← List.reverse_cons]
    rfl
  | @item tree items _ _ _ _ first others =>
    intro progress frames before rest awaits
    rw [List.append_assoc, List.cons_append, first progress _ _ awaits (Token.endsNumber_cons (by simp) _),
      Progress.through_punctuation .comma rfl]
    have next := others _ frames (tree :: before) rest (Progress.awaitsValue_value _)
    rw [List.reverse_cons, List.append_assoc, List.singleton_append] at next
    exact next
  | member before text after _ ih =>
    intro progress frames done rest awaits ends
    simp only [List.append_assoc, List.cons_append]
    rw [Progress.through_blanks before, Progress.through_string text, awaits, Progress.through_blanks after,
      Progress.through_punctuation .colon rfl]
    exact ih _ _ rest (Progress.awaitsValue_value _) ends
  | lastField _ ih =>
    intro progress frames before rest awaits
    rw [ih progress frames before _ awaits (Token.endsNumber_cons (by simp) rest),
      Progress.through_punctuation .closeObject rfl, ← List.reverse_cons]
    rfl
  | @field key tree fields _ _ _ _ first others =>
    intro progress frames before rest awaits
    rw [List.append_assoc, List.cons_append,
      first progress frames before _ awaits (Token.endsNumber_cons (by simp) _),
      Progress.through_punctuation .comma rfl]
    have next := others (.key frames ((key, tree) :: before)) frames _ rest fun _ => rfl
    rw [List.reverse_cons, List.append_assoc, List.singleton_append] at next
    exact next

/-- The reader finds the tree that a text is written for. -/
theorem Tree.ofText_of_writtenAs {tree : Tree} {text : String}
    (written : (Phrase.element tree).WrittenAs text.toList) : ofText text = (tree, true) := by
  have ends : EndsNumber [] := by
    rintro c ⟨⟩
  have read := written.advances (.value []) [] [] (Progress.awaitsValue_value []) ends
  rw [List.append_nil, Progress.through, Progress.through, Token.readAll] at read
  rw [ofText, read]
  rfl

/-- Whether the grammar is kept throughout a phrase. -/
def Phrase.isWhole : Phrase → Bool
  | value tree | element tree | member _ tree => tree.isWhole
  | elements items => Tree.itemsAreWhole items
  | members fields => Tree.membersAreWhole fields

theorem Phrase.WrittenAs.isWhole {phrase : Phrase} {cs : List Char} (written : phrase.WrittenAs cs) :
    phrase.isWhole = true := by
  induction written with
  | element _ _ _ ih => exact ih
  | member _ _ _ _ ih => exact ih
  | array _ ih => exact ih
  | object _ ih => exact ih
  | lastItem _ ih => simpa [Phrase.isWhole, Tree.itemsAreWhole] using ih
  | lastField _ ih => simpa [Phrase.isWhole, Tree.membersAreWhole] using ih
  | item _ _ first others =>
    simp only [Phrase.isWhole, Tree.itemsAreWhole, Bool.and_eq_true] at first others ⊢
    exact ⟨first, others⟩
  | field _ _ first others =>
    simp only [Phrase.isWhole, Tree.membersAreWhole, Bool.and_eq_true] at first others ⊢
    exact ⟨first, others⟩
  | _ => rfl

/-- The ways to write characters in a string: as themselves or by the escapes of their UTF-16 code
units. -/
inductive Spells : List Char → List Piece → Prop
  | empty : Spells [] []
  | char (c : Char) {cs : List Char} {pieces : List Piece} : Spells cs pieces →
      Spells (c :: cs) (.char c :: pieces)
  | unit {c : Char} {cs : List Char} {pieces : List Piece} : c.toNat < 0x10000 → Spells cs pieces →
      Spells (c :: cs) (.unit c.toNat :: pieces)
  | pair {c : Char} {cs : List Char} {pieces : List Piece} : 0x10000 ≤ c.toNat → Spells cs pieces →
      Spells (c :: cs) (.unit (0xD800 + (c.toNat - 0x10000) / 0x400) ::
        .unit (0xDC00 + (c.toNat - 0x10000) % 0x400) :: pieces)

theorem Piece.decode?_unit {code : Nat} (high : isHighSurrogate code = false)
    (low : isLowSurrogate code = false) (pieces : List Piece) :
    decode? (.unit code :: pieces) = (decode? pieces).map (Char.ofNat code :: ·) := by
  cases pieces with
  | nil => simp [decode?, high, low]
  | cons piece pieces => cases piece <;> simp [decode?, high, low]

/-- A character is no surrogate. -/
theorem char_range (c : Char) : c.toNat < 0xD800 ∨ 0xDFFF < c.toNat ∧ c.toNat < 0x110000 :=
  c.valid

theorem Spells.decode? {cs : List Char} {pieces : List Piece} (spells : Spells cs pieces) :
    Piece.decode? pieces = some cs := by
  induction spells with
  | empty => rfl
  | char c _ ih => simp [Piece.decode?, ih]
  | @unit c _ _ small _ ih =>
    have range := char_range c
    have high : Piece.isHighSurrogate c.toNat = false := by
      simp only [Piece.isHighSurrogate, Bool.and_eq_false_iff, decide_eq_false_iff_not]
      omega
    have low : Piece.isLowSurrogate c.toNat = false := by
      simp only [Piece.isLowSurrogate, Bool.and_eq_false_iff, decide_eq_false_iff_not]
      omega
    rw [Piece.decode?_unit high low, ih, Char.ofNat_toNat]
    rfl
  | @pair c _ _ large _ ih =>
    have range := char_range c
    generalize offset : c.toNat - 0x10000 = number
    have high : Piece.isHighSurrogate (0xD800 + number / 0x400) = true := by
      simp only [Piece.isHighSurrogate, Bool.and_eq_true, decide_eq_true_eq]
      omega
    have low : Piece.isLowSurrogate (0xDC00 + number % 0x400) = true := by
      simp only [Piece.isLowSurrogate, Bool.and_eq_true, decide_eq_true_eq]
      omega
    have joined : Piece.joinSurrogates (0xD800 + number / 0x400) (0xDC00 + number % 0x400) = c := by
      have code : 0x10000 + (0xD800 + number / 0x400 - 0xD800) * 0x400 +
          (0xDC00 + number % 0x400 - 0xDC00) = c.toNat := by omega
      rw [Piece.joinSurrogates, code, Char.ofNat_toNat]
    simp [Piece.decode?, high, low, joined, ih]

theorem Spells.toString? {text : String} {pieces : List Piece} (spells : Spells text.toList pieces) :
    Piece.toString? pieces = some text := by
  rw [Piece.toString?, spells.decode?]
  simp

end TemplateCompiler.Json
