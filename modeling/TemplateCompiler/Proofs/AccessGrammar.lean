import TemplateCompiler.Proofs.QuotedPieces

namespace TemplateCompiler

/-- No code point is in both sets. -/
def Text.Ranges.disjoint (first second : Ranges) : Bool :=
  first.all fun range => second.all fun range' => range.2 < range'.1 || range'.2 < range.1

theorem Text.Ranges.contains_eq_false {first second : Ranges} (apart : first.disjoint second = true)
    {c : Char} (member : second.contains c = true) : first.contains c = false := by
  refine Bool.eq_false_iff.mpr fun member' => ?_
  obtain ⟨range, inFirst, low, high⟩ := contains_iff.mp member'
  obtain ⟨range', inSecond, low', high'⟩ := contains_iff.mp member
  have separate := List.all_eq_true.mp (List.all_eq_true.mp apart range inFirst) range' inSecond
  simp only [Bool.or_eq_true, decide_eq_true_eq] at separate
  omega

namespace Script

theorem isDigit_toNat {c : Char} (digit : c.isDigit = true) : 48 ≤ c.toNat ∧ c.toNat ≤ 57 := by
  delta Char.isDigit at digit
  simp only [Bool.and_eq_true, decide_eq_true_eq, ge_iff_le, UInt32.le_iff_toNat_le] at digit
  exact digit

theorem isIdentifierChar_of_digit {c : Char} (digit : c.isDigit = true) : isIdentifierChar c = true := by
  have bounds := isDigit_toNat digit
  have ascii : c.toNat < 0x80 := by omega
  simp [isIdentifierChar, Text.isNumeric, ascii, digit]

theorem isAlphabetic_eq_false_of_digit {c : Char} (digit : c.isDigit = true) :
    Text.isAlphabetic c = false := by
  have bounds := isDigit_toNat digit
  have ascii : c.toNat < 0x80 := by omega
  rw [Text.isAlphabetic, if_pos ascii, Bool.eq_false_iff]
  intro letter
  delta Char.isAlpha Char.isUpper Char.isLower at letter
  simp only [Bool.or_eq_true, Bool.and_eq_true, decide_eq_true_eq, ge_iff_le,
    UInt32.le_iff_toNat_le] at letter
  change (65 ≤ c.toNat ∧ c.toNat ≤ 90) ∨ (97 ≤ c.toNat ∧ c.toNat ≤ 122) at letter
  omega

theorem isIdentifierChar_cases {c : Char} (identifier : isIdentifierChar c = true) :
    isWordChar c = true ∨ c = '$' ∨ Text.alphabeticRanges.contains c = true ∨
      Text.numericRanges.contains c = true := by
  simp only [isIdentifierChar, Bool.or_eq_true, beq_iff_eq] at identifier
  rcases identifier with ((rfl | dollar) | alphabetic) | numeric
  · exact .inl rfl
  · exact .inr (.inl dollar)
  · rw [Text.isAlphabetic] at alphabetic
    split at alphabetic
    · exact .inl (by simp [isWordChar, Char.isAlphanum, alphabetic])
    · exact .inr (.inr (.inl alphabetic))
  · rw [Text.isNumeric] at numeric
    split at numeric
    · exact .inl (by simp [isWordChar, Char.isAlphanum, numeric])
    · exact .inr (.inr (.inr numeric))

/-- White space never belongs to a word. -/
theorem isWhiteSpace_eq_false_of_identifier {c : Char} (identifier : isIdentifierChar c = true) :
    Text.isWhiteSpace c = false := by
  refine Bool.eq_false_iff.mpr fun space => ?_
  rcases isIdentifierChar_cases identifier with word | rfl | alphabetic | numeric
  · cases word.symm.trans (isWordChar_eq_false_of_space space)
  · cases space
  · have apart : Text.alphabeticRanges.disjoint Text.whiteSpaceRanges = true := by decide +kernel
    cases alphabetic.symm.trans (Text.Ranges.contains_eq_false apart space)
  · have apart : Text.numericRanges.disjoint Text.whiteSpaceRanges = true := by decide +kernel
    cases numeric.symm.trans (Text.Ranges.contains_eq_false apart space)

/-- A name that stands for a value. -/
structure AccessName where
  first : Char
  rest : List Char
  starts : first = '_' ∨ first = '$' ∨ Text.isAlphabetic first = true
  continues : ∀ c ∈ rest, isIdentifierChar c = true
  denotes : isReserved (String.ofList (first :: rest)) = false ∨
    isValueWord (String.ofList (first :: rest)) = true

def AccessName.chars (name : AccessName) : List Char :=
  name.first :: name.rest

/-- A name after a dot. It may be any word, reserved ones included. -/
structure PropertyName where
  first : Char
  rest : List Char
  starts : first = '_' ∨ first = '$' ∨ Text.isAlphabetic first = true
  continues : ∀ c ∈ rest, isIdentifierChar c = true

def PropertyName.chars (name : PropertyName) : List Char :=
  name.first :: name.rest

/-- Whether the word stands for a value where it is not the name of a property. -/
def PropertyName.denotes (name : PropertyName) : Bool :=
  !isReserved (String.ofList name.chars) || isValueWord (String.ofList name.chars)

def AccessName.property (name : AccessName) : PropertyName :=
  ⟨name.first, name.rest, name.starts, name.continues⟩

theorem AccessName.denotes_property (name : AccessName) : name.property.denotes = true := by
  rw [PropertyName.denotes, Bool.or_eq_true, Bool.not_eq_true']
  exact name.denotes

structure Digits where
  first : Char
  rest : List Char
  digits : ∀ c ∈ first :: rest, c.isDigit = true

def Digits.chars (digits : Digits) : List Char :=
  digits.first :: digits.rest

/-- An unsigned decimal number. -/
structure Numeral where
  whole : Digits
  fraction : Option Digits

def Numeral.chars (numeral : Numeral) : List Char :=
  match numeral.fraction with
  | none => numeral.whole.chars
  | some fraction => numeral.whole.chars ++ '.' :: fraction.chars

/-- Text that can stand between single quotes. -/
structure QuotedText where
  content : List Char
  stays : StaysQuoted '\'' content

inductive Operator where
  | plus | minus | times | divided | modulo | less | greater | equal | identical | unequal | both | either

def Operator.symbol : Operator → String
  | plus => "+"
  | minus => "-"
  | times => "*"
  | divided => "/"
  | modulo => "%"
  | less => "<"
  | greater => ">"
  | equal => "=="
  | identical => "==="
  | unequal => "!="
  | both => "&&"
  | either => "||"

mutual

/-- An expression whose accesses are known. -/
inductive Expression where
  | chain (chain : AccessChain)
  | number (numeral : Numeral)
  | string (text : QuotedText)
  /-- Two operands with an operator between them and any number of spaces on both sides of it. -/
  | binary (left : Expression) (before : Nat) (operator : Operator) (after : Nat) (right : Expression)

/-- A value with any number of links after it. -/
inductive AccessChain where
  | name (name : AccessName)
  | group (inner : Expression)
  | member (target : AccessChain) (name : AccessName)
  | index (target : AccessChain) (inner : Expression)
  | call (target : AccessChain) (arguments : List Expression)

end

/-- How the links of a chain are written. -/
inductive LinkStyle where
  | direct
  | optional

/-- The start of a link: `.`, `[` or `(`, and `?.`, `?.[` or `?.(` if it is optional. -/
def LinkStyle.start (c : Char) : LinkStyle → List Char
  | direct => [c]
  | optional => accessMark c ++ [c]

/-- The style of a link after something that is taken for a value or not. -/
def LinkStyle.after (value : Bool) : LinkStyle :=
  if value then optional else direct

mutual

def Expression.spell (style : LinkStyle) : Expression → List Char
  | .chain chain => chain.spell style
  | .number numeral => numeral.chars
  | .string text => '\'' :: text.content ++ ['\'']
  | .binary left before operator after right =>
    left.spell style ++ List.replicate before ' ' ++ operator.symbol.toList ++ List.replicate after ' ' ++
      right.spell style

def AccessChain.spell (style : LinkStyle) : AccessChain → List Char
  | .name name => name.chars
  | .group inner => '(' :: inner.spell style ++ [')']
  | .member target name => target.spell style ++ style.start '.' ++ name.chars
  | .index target inner => target.spell style ++ style.start '[' ++ inner.spell style ++ [']']
  | .call target arguments => target.spell style ++ style.start '(' ++ spellArguments style arguments ++ [')']

/-- Arguments are separated by commas. -/
def spellArguments (style : LinkStyle) : List Expression → List Char
  | [] => []
  | [last] => last.spell style
  | first :: second :: rest => first.spell style ++ ',' :: spellArguments style (second :: rest)

end

/-- From each reader with the first property the text is written as given, and what follows it is read
with the second. -/
def Rewrites (start : Reader → Prop) (text written : List Char) (finish : Reader → Prop) : Prop :=
  ∀ reader, start reader → ∃ after, finish after ∧
    ∀ rest, reader.navigate (text ++ rest) = written ++ after.navigate rest

namespace Rewrites

variable {first second third start finish : Reader → Prop} {text written text' written' : List Char}

theorem empty (kept : ∀ reader, start reader → finish reader) : Rewrites start [] [] finish :=
  fun reader holds => ⟨reader, kept reader holds, fun _ => rfl⟩

theorem append (here : Rewrites first text written second) (later : Rewrites second text' written' third) :
    Rewrites first (text ++ text') (written ++ written') third := by
  intro reader holds
  obtain ⟨between, holdsBetween, read⟩ := here reader holds
  obtain ⟨after, holdsAfter, readLater⟩ := later between holdsBetween
  refine ⟨after, holdsAfter, fun rest => ?_⟩
  rw [List.append_assoc, read, readLater, List.append_assoc]

theorem weaken (here : Rewrites first text written second) (stronger : ∀ reader, start reader → first reader)
    (weaker : ∀ reader, second reader → finish reader) : Rewrites start text written finish := by
  intro reader holds
  obtain ⟨after, holdsAfter, read⟩ := here reader (stronger reader holds)
  exact ⟨after, weaker after holdsAfter, read⟩

/-- A character that is no dot is read in the same way whatever follows it. -/
theorem char {c : Char} (notDot : c ≠ '.') {mark : List Char}
    (marks : ∀ reader, start reader → reader.mark c none = mark)
    (leads : ∀ reader, start reader → finish (reader.advance c none)) :
    Rewrites start [c] (mark ++ [c]) finish := by
  intro reader holds
  refine ⟨reader.advance c none, leads reader holds, fun rest => ?_⟩
  obtain ⟨sameMark, sameReader⟩ := Reader.lookahead_irrelevant (.inr notDot) rest.head? none
  rw [List.singleton_append, Reader.navigate_cons, sameMark, sameReader, marks reader holds,
    List.append_assoc]
  rfl

theorem plainChar {c : Char} (plain : c ≠ '.' ∧ c ≠ '[' ∧ c ≠ '(')
    (leads : ∀ reader, start reader → finish (reader.advance c none)) : Rewrites start [c] [c] finish :=
  .char plain.1 (fun reader _ => reader.mark_plain plain none) leads

end Rewrites

namespace Reader

/-- The reader is not in a string. -/
def IsOutside (reader : Reader) : Prop :=
  reader.strings = .outside

/-- The reader stands before an operand. -/
structure Ready (reader : Reader) : Prop where
  outside : reader.strings = .outside
  released : reader.constructing = false
  noWord : reader.word = []
  noTarget : reader.endsAccessTarget = false
  separate : reader.continuesWord = false

/-- The reader stands after an access chain. -/
structure OnTarget (reader : Reader) : Prop where
  outside : reader.strings = .outside
  released : reader.constructing = false
  target : reader.endsAccessTarget = true
  noNumber : reader.inNumber = false
  noDot : reader.last ≠ some '.'

/-- The reader stands after a name or a link, which it takes for a value or not. -/
structure AfterLink (value : Bool) (reader : Reader) : Prop where
  outside : reader.strings = .outside
  released : reader.constructing = false
  target : reader.endsAccessTarget = value
  noNumber : reader.inNumber = false
  noDot : reader.last ≠ some '.'

theorem AfterLink.onTarget {reader : Reader} (after : reader.AfterLink true) : reader.OnTarget :=
  ⟨after.outside, after.released, after.target, after.noNumber, after.noDot⟩

theorem OnTarget.afterLink {reader : Reader} (target : reader.OnTarget) : reader.AfterLink true :=
  ⟨target.outside, target.released, target.target, target.noNumber, target.noDot⟩

/-- The reader stands after the characters of a word. -/
structure InWord (word : List Char) (reader : Reader) : Prop where
  outside : reader.strings = .outside
  released : reader.constructing = false
  same : reader.word = word
  last : ∃ c, isIdentifierChar c = true ∧ reader.last = some c ∧ reader.previous = some c

theorem ready_initial : Ready {} := ⟨rfl, rfl, rfl, rfl, rfl⟩

theorem ready_fresh {c : Char} (opens : c ≠ ')' ∧ c ≠ ']') (other : isIdentifierChar c = false) :
    (fresh c).Ready :=
  ⟨rfl, rfl, rfl, endsAccessTarget_fresh opens, by simp [continuesWord, fresh, other, inNumber]⟩

theorem onTarget_fresh {c : Char} (closes : c = ')' ∨ c = ']') : (fresh c).OnTarget := by
  rcases closes with rfl | rfl <;> exact ⟨rfl, rfl, rfl, rfl, by decide⟩

end Reader

/-- The characters of operators, and the comma. -/
def isSeparator (c : Char) : Bool :=
  isPunctuation c && decide (c ∉ ['.', '[', '(', ')', ']'])

theorem rewrites_punctuation {c : Char} (punctuation : isPunctuation c = true)
    (plain : c ≠ '.' ∧ c ≠ '[' ∧ c ≠ '(') {finish : Reader → Prop} (leads : finish (.fresh c)) :
    Rewrites Reader.IsOutside [c] [c] finish := by
  have fresh : ∀ reader : Reader, reader.IsOutside → reader.advance c none = .fresh c := by
    intro reader outside
    refine Reader.advance_punctuation outside punctuation none ?_ fun dot => absurd dot plain.1
    rintro (dot | index)
    · exact absurd dot plain.1
    · exact absurd index plain.2.1
  refine .plainChar plain fun reader outside => ?_
  rw [fresh reader outside]
  exact leads

theorem rewrites_separator {c : Char} (separator : isSeparator c = true) :
    Rewrites Reader.IsOutside [c] [c] Reader.Ready := by
  simp only [isSeparator, Bool.and_eq_true, decide_eq_true_eq, List.mem_cons, not_or, List.not_mem_nil,
    not_false_eq_true, and_true] at separator
  obtain ⟨punctuation, dot, index, call, closes⟩ := separator
  refine rewrites_punctuation punctuation ⟨dot, index, call⟩ (Reader.ready_fresh closes ?_)
  simp only [isPunctuation, Bool.and_eq_true, Bool.not_eq_true'] at punctuation
  exact punctuation.2

theorem rewrites_separators {cs : List Char} (nonempty : cs ≠ [])
    (separators : ∀ c ∈ cs, isSeparator c = true) : Rewrites Reader.IsOutside cs cs Reader.Ready := by
  induction cs with
  | nil => exact absurd rfl nonempty
  | cons c cs ih =>
    have here := rewrites_separator (separators c List.mem_cons_self)
    cases cs with
    | nil => exact here
    | cons d cs =>
      have later := ih (by simp) fun d member => separators d (List.mem_cons_of_mem c member)
      exact here.append (later.weaken (fun _ ready => ready.outside) fun _ ready => ready)

theorem rewrites_closing {c : Char} (closes : c = ')' ∨ c = ']') :
    Rewrites Reader.IsOutside [c] [c] Reader.OnTarget := by
  have punctuation : isPunctuation c = true := by rcases closes with rfl | rfl <;> decide
  have plain : c ≠ '.' ∧ c ≠ '[' ∧ c ≠ '(' := by rcases closes with rfl | rfl <;> decide
  exact rewrites_punctuation punctuation plain (Reader.onTarget_fresh closes)

theorem rewrites_spaces {state : Reader → Prop} (outside : ∀ reader, state reader → reader.IsOutside)
    (kept : ∀ reader, state reader → state { reader with last := some ' ' }) (count : Nat) :
    Rewrites state (List.replicate count ' ') (List.replicate count ' ') state := by
  have space : Rewrites state [' '] [' '] state := by
    refine .plainChar (by decide) fun reader holds => ?_
    have advanced : reader.advance ' ' none = { reader with last := some ' ' } := by
      have blank : isQuote ' ' = false ∧ Text.isWhiteSpace ' ' = true := by decide
      have strings : reader.strings = .outside := outside reader holds
      simp [Reader.advance, strings, Reader.advanceOutside, blank]
    rw [advanced]
    exact kept reader holds
  induction count with
  | zero => exact .empty fun _ holds => holds
  | succ count ih => exact space.append ih

theorem rewrites_grouping : Rewrites Reader.Ready ['('] ['('] Reader.Ready := by
  have unmarked : ∀ reader : Reader, reader.Ready → reader.mark '(' none = [] :=
    fun reader ready => Reader.mark_eq_nil ready.noTarget '(' none
  refine .char (by decide) unmarked fun reader ready => ?_
  rw [Reader.advance_punctuation ready.outside (by decide) none (by simp) (by simp)]
  exact Reader.ready_fresh (by decide) (by decide)

/-- A bracket after a link starts the next one, which is optional if the reader is on a value. -/
theorem rewrites_openLink {c : Char} (bracket : c = '[' ∨ c = '(') (value : Bool) :
    Rewrites (Reader.AfterLink value) [c] ((LinkStyle.after value).start c) Reader.Ready := by
  have notDot : c ≠ '.' := by rcases bracket with rfl | rfl <;> decide
  have punctuation : isPunctuation c = true := by rcases bracket with rfl | rfl <;> decide
  have other : isIdentifierChar c = false := by rcases bracket with rfl | rfl <;> decide
  have opens : c ≠ ')' ∧ c ≠ ']' := by rcases bracket with rfl | rfl <;> decide
  have starts : (LinkStyle.after value).start c = (if value then accessMark c else []) ++ [c] := by
    cases value <;> rfl
  rw [starts]
  refine Rewrites.char notDot (fun reader after => ?_) fun reader after => ?_
  · have guards : reader.guards c none = value := by
      rw [Reader.guards, after.outside, after.released, after.target]
      rcases bracket with rfl | rfl <;> rfl
    rw [Reader.mark, guards]
  · rw [Reader.advance_punctuation after.outside punctuation none (fun _ => after.released)
      fun dot => absurd dot notDot]
    exact Reader.ready_fresh opens other

/-- A bracket after a value starts a link. -/
theorem rewrites_bracket {c : Char} (bracket : c = '[' ∨ c = '(') :
    Rewrites Reader.OnTarget [c] (LinkStyle.optional.start c) Reader.Ready :=
  (rewrites_openLink bracket true).weaken (fun _ target => target.afterLink) fun _ ready => ready

theorem identifier_plain {c : Char} (identifier : isIdentifierChar c = true) :
    isQuote c = false ∧ c ≠ '.' ∧ c ≠ '[' ∧ c ≠ '(' := by
  refine ⟨Bool.eq_false_iff.mpr fun quote => ?_, ?_, ?_, ?_⟩
  · rcases isQuote_cases quote with rfl | rfl | rfl <;> exact absurd identifier (by decide)
  all_goals
    rintro rfl
    exact absurd identifier (by decide)

theorem Reader.advance_identifier {reader : Reader} (outside : reader.strings = .outside) {c : Char}
    (identifier : isIdentifierChar c = true) (next : Option Char) :
    reader.advance c next =
      if reader.continuesWord then
        { reader with last := some c, previous := some c, word := reader.word ++ [c] }
      else
        { reader with
          last := some c
          previous := some c
          word := [c]
          constructing := reader.constructing || reader.word == ['n', 'e', 'w'] } := by
  obtain ⟨unquoted, dot, index, call⟩ := identifier_plain identifier
  have visible := isWhiteSpace_eq_false_of_identifier identifier
  have step : reader.advance c next = { reader.advanceOutside c next with last := some c } := by
    rw [advance, outside]
  rw [step, advanceOutside, unquoted, visible, identifier, if_neg dot, if_neg index, if_neg call]
  simp only [Bool.false_eq_true, if_false, if_true]
  split <;> rfl

theorem rewrites_wordStart {c : Char} (identifier : isIdentifierChar c = true) :
    Rewrites Reader.Ready [c] [c] (Reader.InWord [c]) := by
  have plain := (identifier_plain identifier).2
  refine .plainChar plain fun reader ready => ?_
  rw [Reader.advance_identifier ready.outside identifier, ready.separate]
  refine ⟨ready.outside, ?_, rfl, c, identifier, rfl, rfl⟩
  simp [ready.released, ready.noWord]

theorem Reader.InWord.advance {word : List Char} {reader : Reader} (inWord : reader.InWord word) {c : Char}
    (identifier : isIdentifierChar c = true) (next : Option Char) :
    (reader.advance c next).InWord (word ++ [c]) := by
  obtain ⟨last, identifierLast, lastIs, _⟩ := inWord.last
  have continues : reader.continuesWord = true := by simp [continuesWord, lastIs, identifierLast]
  rw [advance_identifier inWord.outside identifier, continues]
  exact ⟨inWord.outside, inWord.released, congrArg (· ++ [c]) inWord.same, c, identifier, rfl, rfl⟩

theorem rewrites_word {cs : List Char} (identifiers : ∀ c ∈ cs, isIdentifierChar c = true)
    (word : List Char) : Rewrites (Reader.InWord word) cs cs (Reader.InWord (word ++ cs)) := by
  induction cs generalizing word with
  | nil =>
    rw [List.append_nil]
    exact .empty fun _ inWord => inWord
  | cons c cs ih =>
    have identifier := identifiers c List.mem_cons_self
    have plain := (identifier_plain identifier).2
    have here : Rewrites (Reader.InWord word) [c] [c] (Reader.InWord (word ++ [c])) :=
      .plainChar plain fun reader inWord => inWord.advance identifier none
    have later := ih (fun d member => identifiers d (List.mem_cons_of_mem c member)) (word ++ [c])
    rw [List.append_assoc] at later
    exact here.append later

namespace PropertyName

variable (name : PropertyName)

theorem first_identifier : isIdentifierChar name.first = true := by
  rcases name.starts with underscore | dollar | alphabetic
  · rw [underscore]
    decide
  · rw [dollar]
    decide
  · simp [isIdentifierChar, alphabetic]

theorem first_startsProperty : startsProperty name.first = true := by
  rcases name.starts with underscore | dollar | alphabetic
  · simp [startsProperty, underscore]
  · simp [startsProperty, dollar]
  · simp [startsProperty, alphabetic]

theorem first_noDigit : name.first.isDigit = false := by
  refine Bool.eq_false_iff.mpr fun digit => ?_
  rcases name.starts with underscore | dollar | alphabetic
  · rw [underscore] at digit
    exact absurd digit (by decide)
  · rw [dollar] at digit
    exact absurd digit (by decide)
  · cases alphabetic.symm.trans (isAlphabetic_eq_false_of_digit digit)

/-- The reader judges a name by its word alone, also after a dot. -/
theorem afterLink {reader : Reader} (inWord : reader.InWord name.chars) : reader.AfterLink name.denotes := by
  obtain ⟨c, identifier, last, previous⟩ := inWord.last
  have noNumber : reader.inNumber = false := by simp [Reader.inNumber, inWord.same, chars, name.first_noDigit]
  have target : reader.endsAccessTarget = name.denotes := by
    have closes : ¬ (c = ')' ∨ c = ']') := by
      rintro (rfl | rfl) <;> exact absurd identifier (by decide)
    rw [Reader.endsAccessTarget, previous, noNumber, inWord.same]
    simp [closes, identifier, chars, denotes]
  refine ⟨inWord.outside, inWord.released, target, noNumber, ?_⟩
  rw [last]
  exact fun dot => (identifier_plain identifier).2.1 (Option.some.inj dot)

theorem rewrites : Rewrites Reader.Ready name.chars name.chars (Reader.AfterLink name.denotes) := by
  have word := (rewrites_wordStart name.first_identifier).append (rewrites_word name.continues [name.first])
  exact word.weaken (fun _ ready => ready) fun _ inWord => name.afterLink inWord

/-- A dot and a name after a link are the next one, which is optional if the reader is on a value. -/
theorem rewrites_link (value : Bool) :
    Rewrites (Reader.AfterLink value) ('.' :: name.chars) ((LinkStyle.after value).start '.' ++ name.chars)
      (Reader.AfterLink name.denotes) := by
  intro reader after
  have named := identifier_plain name.first_identifier
  have guards : reader.guards '.' (some name.first) = value := by
    have alone : reader.inDotRun (some name.first) = false := by
      simp [Reader.inDotRun, named.2.1, after.noDot]
    simp [Reader.guards, Reader.startsAccess, after.outside, after.released, after.target,
      after.noNumber, alone, name.first_startsProperty]
  have restarts : reader.advance '.' (some name.first) = .fresh '.' :=
    Reader.advance_punctuation after.outside (by decide) _ (fun _ => after.released) fun _ => after.noNumber
  have afterDot : (Reader.fresh '.').Ready := Reader.ready_fresh (by decide) (by decide)
  obtain ⟨later, afterName, read⟩ := name.rewrites _ afterDot
  refine ⟨later, afterName, fun rest => ?_⟩
  have head : (name.chars ++ rest).head? = some name.first := rfl
  rw [List.cons_append, Reader.navigate_cons, head, Reader.mark, guards, restarts, read]
  cases value <;> simp [LinkStyle.start, LinkStyle.after]

end PropertyName

theorem rewrites_name (name : AccessName) : Rewrites Reader.Ready name.chars name.chars Reader.OnTarget := by
  have named := name.property.rewrites
  rw [name.denotes_property] at named
  exact named.weaken (fun _ ready => ready) fun _ after => after.onTarget

/-- A dot and a name after a value are a link. -/
theorem rewrites_member (name : AccessName) :
    Rewrites Reader.OnTarget ('.' :: name.chars) (LinkStyle.optional.start '.' ++ name.chars)
      Reader.OnTarget := by
  have linked := name.property.rewrites_link true
  rw [name.denotes_property] at linked
  exact linked.weaken (fun _ target => target.afterLink) fun _ after => after.onTarget

/-- A dot between two digits belongs to their number. -/
theorem rewrites_point {word : List Char} (number : word.head?.any Char.isDigit = true) {digit : Char}
    (isDigit : digit.isDigit = true) :
    Rewrites (Reader.InWord word) ['.', digit] ['.', digit] (Reader.InWord (word ++ [digit])) := by
  intro reader inWord
  obtain ⟨c, identifierBefore, last, _⟩ := inWord.last
  have identifier := isIdentifierChar_of_digit isDigit
  have plain := (identifier_plain identifier).2
  have inNumber : reader.inNumber = true := by rw [Reader.inNumber, inWord.same, number]
  have alone : reader.inDotRun (some digit) = false := by
    simp [Reader.inDotRun, last, plain.1, (identifier_plain identifierBefore).2.1]
  have unmarked : reader.mark '.' (some digit) = [] := by
    simp [Reader.mark, Reader.guards, Reader.startsAccess, inNumber]
  have pointed : reader.advance '.' (some digit) =
      { reader with last := some '.', previous := some '.' } := by
    have unquoted : isQuote '.' = false := by decide
    simp [Reader.advance, Reader.advanceOutside, inWord.outside, unquoted, inNumber, alone]
  -- The digit goes on with the word that the dot has left as it was.
  have continues : Reader.continuesWord { reader with last := some '.', previous := some '.' } = true := by
    rw [Reader.inNumber] at inNumber
    simp [Reader.continuesWord, Reader.inNumber, inNumber]
  refine ⟨{ reader with last := some digit, previous := some digit, word := reader.word ++ [digit] },
    ⟨inWord.outside, inWord.released, congrArg (· ++ [digit]) inWord.same, digit, identifier, rfl, rfl⟩,
    fun rest => ?_⟩
  have outside : Reader.strings { reader with last := some '.', previous := some '.' } = .outside :=
    inWord.outside
  have head : ([digit] ++ rest).head? = some digit := rfl
  rw [List.cons_append, Reader.navigate_cons, head, unmarked, pointed, List.singleton_append,
    Reader.navigate_cons, Reader.mark_plain plain, Reader.advance_identifier outside identifier,
    if_pos continues]
  rfl

theorem Digits.identifiers (digits : Digits) : ∀ c ∈ digits.chars, isIdentifierChar c = true :=
  fun c member => isIdentifierChar_of_digit (digits.digits c member)

theorem rewrites_digits (digits : Digits) :
    Rewrites Reader.Ready digits.chars digits.chars (Reader.InWord digits.chars) := by
  obtain ⟨first, rest⟩ := List.forall_mem_cons.mp digits.identifiers
  exact (rewrites_wordStart first).append (rewrites_word rest [digits.first])

theorem rewrites_numeral (numeral : Numeral) :
    Rewrites Reader.Ready numeral.chars numeral.chars Reader.IsOutside := by
  have whole := rewrites_digits numeral.whole
  rw [Numeral.chars]
  split
  · exact whole.weaken (fun _ ready => ready) fun _ inWord => inWord.outside
  · rename_i fraction _
    have number : numeral.whole.chars.head?.any Char.isDigit = true :=
      numeral.whole.digits _ List.mem_cons_self
    have point := rewrites_point number (fraction.digits _ List.mem_cons_self)
    have later := rewrites_word (fun c member => fraction.identifiers c (List.mem_cons_of_mem _ member))
      (numeral.whole.chars ++ [fraction.first])
    exact (whole.append (point.append later)).weaken (fun _ ready => ready) fun _ inWord => inWord.outside

theorem rewrites_string (text : QuotedText) :
    Rewrites Reader.Ready ('\'' :: text.content ++ ['\'']) ('\'' :: text.content ++ ['\''])
      Reader.IsOutside := by
  intro reader ready
  exact ⟨reader.afterString '\'', ready.outside, Reader.navigate_string ready.outside text.stays⟩

theorem rewrites_operator (operator : Operator) :
    Rewrites Reader.IsOutside operator.symbol.toList operator.symbol.toList Reader.Ready := by
  have nonempty : operator.symbol.toList ≠ [] := by cases operator <;> decide
  have separators : operator.symbol.toList.all isSeparator = true := by cases operator <;> decide +kernel
  exact rewrites_separators nonempty (List.all_eq_true.mp separators)

theorem Reader.Ready.space {reader : Reader} (ready : reader.Ready) :
    Ready { reader with last := some ' ' } := by
  refine ⟨ready.outside, ready.released, ready.noWord, ready.noTarget, ?_⟩
  have other : isIdentifierChar ' ' = false := by decide
  simp [continuesWord, other]

-- An expression ends outside of strings. A chain also ends on a value, and that is what tells the next
-- link of it from an operand.
mutual

theorem Expression.rewrites :
    ∀ expression : Expression,
      Rewrites Reader.Ready (expression.spell .direct) (expression.spell .optional) Reader.IsOutside
  | .chain chain => by
    rw [Expression.spell, Expression.spell]
    exact chain.rewrites.weaken (fun _ ready => ready) fun _ target => target.outside
  | .number numeral => by
    rw [Expression.spell, Expression.spell]
    exact rewrites_numeral numeral
  | .string text => by
    rw [Expression.spell, Expression.spell]
    exact rewrites_string text
  | .binary left before operator after right => by
    rw [Expression.spell, Expression.spell]
    have spacesBefore : Rewrites Reader.IsOutside (List.replicate before ' ') (List.replicate before ' ')
        Reader.IsOutside :=
      rewrites_spaces (fun _ outside => outside) (fun _ outside => outside) before
    have spacesAfter : Rewrites Reader.Ready (List.replicate after ' ') (List.replicate after ' ')
        Reader.Ready :=
      rewrites_spaces (fun _ ready => ready.outside) (fun _ ready => ready.space) after
    have joined := (left.rewrites.append spacesBefore).append (rewrites_operator operator)
    exact (joined.append spacesAfter).append right.rewrites

theorem AccessChain.rewrites :
    ∀ chain : AccessChain,
      Rewrites Reader.Ready (chain.spell .direct) (chain.spell .optional) Reader.OnTarget
  | .name name => by
    rw [AccessChain.spell, AccessChain.spell]
    exact rewrites_name name
  | .group inner => by
    rw [AccessChain.spell, AccessChain.spell]
    exact (rewrites_grouping.append inner.rewrites).append (rewrites_closing (.inl rfl))
  | .member target name => by
    rw [AccessChain.spell, AccessChain.spell, List.append_assoc, List.append_assoc]
    exact target.rewrites.append (rewrites_member name)
  | .index target inner => by
    rw [AccessChain.spell, AccessChain.spell]
    have opened := target.rewrites.append (rewrites_bracket (.inl rfl))
    exact (opened.append inner.rewrites).append (rewrites_closing (.inr rfl))
  | .call target arguments => by
    rw [AccessChain.spell, AccessChain.spell]
    have opened := target.rewrites.append (rewrites_bracket (.inr rfl))
    exact (opened.append (rewrites_arguments arguments)).append (rewrites_closing (.inl rfl))

theorem rewrites_arguments :
    ∀ arguments : List Expression,
      Rewrites Reader.Ready (spellArguments .direct arguments) (spellArguments .optional arguments)
        Reader.IsOutside
  | [] => by
    rw [spellArguments, spellArguments]
    exact .empty fun _ ready => ready.outside
  | [last] => by
    rw [spellArguments, spellArguments]
    exact last.rewrites
  | first :: second :: rest => by
    rw [spellArguments, spellArguments]
    have comma : Rewrites Reader.IsOutside [','] [','] Reader.Ready := rewrites_separator (by decide)
    exact first.rewrites.append (comma.append (rewrites_arguments (second :: rest)))

end

/-- Making accesses optional marks each link of each chain of an expression, at every depth, and
leaves the rest of it as it is. -/
theorem safeNavigation_marks_links (expression : Expression) :
    safeNavigation (String.ofList (expression.spell .direct)) =
      String.ofList (expression.spell .optional) := by
  obtain ⟨after, _, read⟩ := expression.rewrites {} Reader.ready_initial
  have whole := read []
  rw [List.append_nil, Reader.navigate, List.append_nil] at whole
  rw [safeNavigation, String.toList_ofList, whole]

example :
    safeNavigation "(a + 1.5).b[c(d.e) * 2]('f.g',h)" = "(a + 1.5)?.b?.[c?.(d?.e) * 2]?.('f.g',h)" := by
  decide +kernel

end Script

end TemplateCompiler
