import TemplateCompiler.Json.Numeral
import TemplateCompiler.Text.Hexadecimal

namespace TemplateCompiler.Json

/-- A part of a string as written. -/
inductive Piece where
  | char (c : Char)
  /-- A four-digit escape, which is one half of a character if it is a surrogate. -/
  | unit (code : Nat)
  deriving DecidableEq, Repr

/-- The words of JSON text. -/
inductive Token where
  | openArray
  | closeArray
  | openObject
  | closeObject
  | comma
  | colon
  | null
  | bool (value : Bool)
  | number (numeral : Numeral)
  | string (pieces : List Piece)
  /-- The rest of a text from a place at which no word begins. -/
  | garbage
  deriving DecidableEq, Repr

namespace Token

def isSpace (c : Char) : Bool :=
  c == ' ' || c == '\t' || c == '\n' || c == '\r'

def hexCode? (a b c d : Char) : Option Nat := do
  let a ← Text.hexValue? a
  let b ← Text.hexValue? b
  let c ← Text.hexValue? c
  let d ← Text.hexValue? d
  pure (((a * 16 + b) * 16 + c) * 16 + d)

/-- What a backslash and one letter stand for. -/
def shortEscape? : Char → Option Char
  | '"' => some '"'
  | '\\' => some '\\'
  | '/' => some '/'
  | 'b' => some '\x08'
  | 'f' => some '\x0c'
  | 'n' => some '\n'
  | 'r' => some '\r'
  | 't' => some '\t'
  | _ => none

/-- Reads a string after its opening quote. -/
def readString? : List Char → Option (List Piece × List Char)
  | [] => none
  | '"' :: cs => some ([], cs)
  | '\\' :: 'u' :: a :: b :: c :: d :: cs =>
    match hexCode? a b c d, readString? cs with
    | some code, some (pieces, rest) => some (.unit code :: pieces, rest)
    | _, _ => none
  | '\\' :: c :: cs =>
    match shortEscape? c, readString? cs with
    | some c, some (pieces, rest) => some (.char c :: pieces, rest)
    | _, _ => none
  | c :: cs =>
    if c < ' ' || c = '\\' then none
    else
      match readString? cs with
      | some (pieces, rest) => some (.char c :: pieces, rest)
      | none => none

/-- The leading digits of a text and what follows them. -/
def readDigits (cs : List Char) : List Nat × List Char :=
  ((cs.takeWhile Char.isDigit).map fun c => c.toNat - 48, cs.dropWhile Char.isDigit)

/-- Reads the part of a number from its point on. -/
def readFraction? (cs : List Char) : Option (List Nat × List Char) :=
  match cs with
  | '.' :: cs =>
    let (digits, rest) := readDigits cs
    if digits.isEmpty then none else some (digits, rest)
  | _ => some ([], cs)

/-- The sign at the start of an exponent, plus if there is none, and what follows it. -/
def readSign : List Char → Int × List Char
  | '+' :: cs => (1, cs)
  | '-' :: cs => (-1, cs)
  | cs => (1, cs)

/-- Reads the part of a number from its exponent's mark on. -/
def readExponent? (cs : List Char) : Option (Option Int × List Char) :=
  match cs with
  | [] => some (none, cs)
  | mark :: rest =>
    if mark = 'e' || mark = 'E' then
      let (sign, rest) := readSign rest
      let (digits, rest) := readDigits rest
      if digits.isEmpty then none else some (some (sign * Numeral.ofDigits digits), rest)
    else some (none, cs)

/-- Reads a number after its sign. A leading zero stands alone. -/
def readNumeral? (negative : Bool) (cs : List Char) : Option (Numeral × List Char) := do
  let (whole, rest) := readDigits cs
  if whole.isEmpty || (whole.head? == some 0 && whole.length != 1) then none
  else
    let (fraction, rest) ← readFraction? rest
    let (exponent, rest) ← readExponent? rest
    pure (⟨negative, whole, fraction, exponent⟩, rest)

def punctuation? : Char → Option Token
  | '[' => some openArray
  | ']' => some closeArray
  | '\x7b' => some openObject
  | '\x7d' => some closeObject
  | ',' => some comma
  | ':' => some colon
  | _ => none

/-- Reads one of the three names. -/
def readName? : Char → List Char → Option (Token × List Char)
  | 'n', 'u' :: 'l' :: 'l' :: cs => some (null, cs)
  | 't', 'r' :: 'u' :: 'e' :: cs => some (bool true, cs)
  | 'f', 'a' :: 'l' :: 's' :: 'e' :: cs => some (bool false, cs)
  | _, _ => none

/-- Reads the word that starts with `c`, if one does. -/
def read? (c : Char) (cs : List Char) : Option (Token × List Char) :=
  match punctuation? c with
  | some token => some (token, cs)
  | none =>
    if c = '"' then (readString? cs).map fun (pieces, rest) => (string pieces, rest)
    else if c = '-' then (readNumeral? true cs).map fun (numeral, rest) => (number numeral, rest)
    else if c.isDigit then
      (readNumeral? false (c :: cs)).map fun (numeral, rest) => (number numeral, rest)
    else readName? c cs

theorem readString?_length_le {cs rest : List Char} {pieces : List Piece}
    (found : readString? cs = some (pieces, rest)) : rest.length ≤ cs.length := by
  fun_induction readString? cs generalizing pieces rest with
  | case1 => cases found
  | case2 => simp_all
  | case3 _ _ _ _ _ _ _ _ inner _ ih =>
    cases found
    exact Nat.le_trans (ih inner) (by simp only [List.length_cons]; omega)
  | case4 => cases found
  | case5 _ _ _ _ _ _ inner _ ih =>
    cases found
    exact Nat.le_trans (ih inner) (by simp only [List.length_cons]; omega)
  | case6 => cases found
  | case7 => cases found
  | case8 _ _ _ _ _ _ _ _ inner ih =>
    cases found
    exact Nat.le_trans (ih inner) (by simp only [List.length_cons]; omega)
  | case9 => cases found

theorem readDigits_length_le (cs : List Char) : (readDigits cs).2.length ≤ cs.length := by
  simpa [readDigits] using (List.dropWhile_sublist (p := Char.isDigit) (l := cs)).length_le

theorem readFraction?_length_le {cs rest : List Char} {digits : List Nat}
    (found : readFraction? cs = some (digits, rest)) : rest.length ≤ cs.length := by
  unfold readFraction? at found
  split at found
  · rename_i tail
    have bound := readDigits_length_le tail
    simp only at found
    split at found
    · cases found
    · cases found
      exact Nat.le_trans bound (by simp)
  · cases found
    exact Nat.le_refl _

theorem readSign_length_le (cs : List Char) : (readSign cs).2.length ≤ cs.length := by
  unfold readSign
  split <;> simp

theorem readExponent?_length_le {cs rest : List Char} {exponent : Option Int}
    (found : readExponent? cs = some (exponent, rest)) : rest.length ≤ cs.length := by
  unfold readExponent? at found
  split at found
  · cases found
    exact Nat.le_refl _
  · rename_i mark tail
    split at found
    · have sign := readSign_length_le tail
      have bound := readDigits_length_le (readSign tail).2
      simp only at found
      split at found
      · cases found
      · cases found
        exact Nat.le_trans (Nat.le_trans bound sign) (by simp)
    · cases found
      exact Nat.le_refl _

theorem readNumeral?_length_lt {negative : Bool} {cs rest : List Char} {numeral : Numeral}
    (found : readNumeral? negative cs = some (numeral, rest)) : rest.length < cs.length := by
  unfold readNumeral? at found
  simp only at found
  split at found
  · cases found
  · rename_i nonempty
    cases fraction : readFraction? (readDigits cs).2 with
    | none => simp [fraction] at found
    | some pair =>
      obtain ⟨digits, afterFraction⟩ := pair
      cases exponent : readExponent? afterFraction with
      | none => simp [fraction, exponent] at found
      | some pair =>
        obtain ⟨power, afterExponent⟩ := pair
        have first := readFraction?_length_le fraction
        have second := readExponent?_length_le exponent
        have shorter : (readDigits cs).2.length < cs.length := by
          cases cs with
          | nil => simp [readDigits] at nonempty
          | cons c cs =>
            have bound := (List.dropWhile_sublist (p := Char.isDigit) (l := cs)).length_le
            by_cases digit : c.isDigit = true
            · simp only [readDigits, List.dropWhile_cons, digit, if_true, List.length_cons]
              omega
            · simp [readDigits, digit] at nonempty
        simp [fraction, exponent] at found
        rw [← found.2]
        omega

theorem readName?_length_le {c : Char} {cs rest : List Char} {token : Token}
    (found : readName? c cs = some (token, rest)) : rest.length ≤ cs.length := by
  unfold readName? at found
  split at found <;> cases found <;> simp only [List.length_cons] <;> omega

theorem read?_length_le {c : Char} {cs rest : List Char} {token : Token}
    (found : read? c cs = some (token, rest)) : rest.length ≤ cs.length := by
  unfold read? at found
  split at found
  · cases found
    exact Nat.le_refl _
  · split at found
    · obtain ⟨⟨pieces, tail⟩, inner, equal⟩ := Option.map_eq_some_iff.1 found
      cases equal
      exact readString?_length_le inner
    · split at found
      · obtain ⟨⟨numeral, tail⟩, inner, equal⟩ := Option.map_eq_some_iff.1 found
        cases equal
        exact Nat.le_of_lt (readNumeral?_length_lt inner)
      · split at found
        · obtain ⟨⟨numeral, tail⟩, inner, equal⟩ := Option.map_eq_some_iff.1 found
          cases equal
          exact Nat.le_of_lt_succ (readNumeral?_length_lt inner)
        · exact readName?_length_le found

/-- The words of a text. The first place at which no word begins ends the list. -/
def readAll : List Char → List Token
  | [] => []
  | c :: cs =>
    if isSpace c then readAll cs
    else
      match _found : read? c cs with
      | none => [garbage]
      | some (token, rest) => token :: readAll rest
termination_by cs => cs.length
decreasing_by
  · simp
  · exact Nat.lt_succ_of_le (read?_length_le _found)

end Token

end TemplateCompiler.Json
