import TemplateCompiler.Proofs.ClosedText

namespace TemplateCompiler.Script

/-- Reads on from `index` in a string that `quote` opened, to the position after the string. A string
without an end takes the rest of the text. -/
def stringEnd? (cs : List Char) (quote : Char) (index : Nat) : Option Nat :=
  if index < cs.length then
    match cs[index]? with
    | none => none
    | some c =>
      if c = '\\' then stringEnd? cs quote (index + 2)
      else if c = quote then some (index + 1)
      else stringEnd? cs quote (index + 1)
  else some cs.length
termination_by cs.length - index

/-- The position after the string that starts at `start`. -/
def skipString? (cs : List Char) (start : Nat) : Option Nat :=
  match cs[start]? with
  | none => none
  | some quote => stringEnd? cs quote (start + 1)

/-- The characters from `start` up to `stop`, which both have to be positions of the text. -/
def slice? (cs : List Char) (start stop : Nat) : Option (List Char) :=
  if start ≤ stop ∧ stop ≤ cs.length then some (cs.extract start stop) else none

/-- The position after the dots that start at `index`. -/
def dotsEnd (cs : List Char) (index : Nat) : Nat :=
  if cs[index]? = some '.' then dotsEnd cs (index + 1) else index
termination_by cs.length - index
decreasing_by
  rename_i dot
  obtain ⟨within, _⟩ := List.getElem?_eq_some_iff.mp dot
  omega

/-- The character just before a position. -/
def charBefore? (cs : List Char) : Nat → Option Char
  | 0 => none
  | index + 1 => cs[index]?

/-- What one round of a scan writes, where it stops and what it remembers there. -/
structure Round where
  written : List Char
  stop : Nat
  reader : Reader

namespace Reader

/-- Whether an identifier character at `index` goes on with the word before it. -/
def continuesWordAt? (reader : Reader) (cs : List Char) (index : Nat) : Option Bool :=
  if 0 < index then
    (cs[index - 1]?).map fun last => isIdentifierChar last || last == '.' && reader.inNumber
  else some false

/-- One round of the scan by positions. It passes over a whole string or a whole run of dots, or else
over one character. There is no round where a position that is looked at is not one of the text. -/
def round? (reader : Reader) (cs : List Char) (index : Nat) : Option Round :=
  match cs[index]? with
  | none => none
  | some c =>
    if isQuote c then
      match skipString? cs index with
      | none => none
      | some stop =>
        (slice? cs index stop).map fun literal =>
          ⟨literal, stop, { reader with previous := some c, word := [] }⟩
    else if c = '.' then
      let next := cs[index + 1]?
      if next = some '.' then
        let stop := dotsEnd cs index
        some ⟨List.replicate (stop - index) '.', stop, { reader with previous := some '.', word := [] }⟩
      else
        let optional := !reader.inNumber && !reader.constructing && next.any startsProperty &&
          reader.endsAccessTarget
        some ⟨if optional then ['?', '.'] else ['.'], index + 1,
          { reader with previous := some '.', word := if reader.inNumber then reader.word else [] }⟩
    else if c = '[' || c = '(' then
      let optional := !reader.constructing && reader.endsAccessTarget
      some ⟨if optional then ['?', '.', c] else [c], index + 1,
        { reader with
          previous := some c
          word := []
          constructing := if c = '(' then false else reader.constructing }⟩
    else if Text.isWhiteSpace c then some ⟨[c], index + 1, reader⟩
    else if isIdentifierChar c then
      (reader.continuesWordAt? cs index).map fun continues =>
        ⟨[c], index + 1,
          if continues then { reader with previous := some c, word := reader.word ++ [c] }
          else
            { reader with
              previous := some c
              word := [c]
              constructing := reader.constructing || reader.word == ['n', 'e', 'w'] }⟩
    else some ⟨[c], index + 1, { reader with previous := some c, word := [], constructing := false }⟩

end Reader

/-- A string ends inside the text, also behind a backslash that is its last character. -/
theorem stringEnd?_bounds (cs : List Char) (quote : Char) (index : Nat) :
    ∃ stop, stringEnd? cs quote index = some stop ∧ (index ≤ stop ∨ stop = cs.length) ∧ stop ≤ cs.length := by
  fun_induction stringEnd? cs quote index with
  | case1 index within missing => simp [within] at missing
  | case2 index within here ih =>
    obtain ⟨stop, ends, bound, last⟩ := ih
    exact ⟨stop, ends, by omega, last⟩
  | case3 index within here => exact ⟨index + 1, rfl, .inl (by omega), by omega⟩
  | case4 index within c here plain other ih =>
    obtain ⟨stop, ends, bound, last⟩ := ih
    exact ⟨stop, ends, by omega, last⟩
  | case5 index beyond => exact ⟨cs.length, rfl, .inr rfl, Nat.le_refl _⟩

theorem skipString?_bounds {cs : List Char} {start : Nat} {quote : Char} (here : cs[start]? = some quote) :
    ∃ stop, skipString? cs start = some stop ∧ start < stop ∧ stop ≤ cs.length := by
  obtain ⟨within, _⟩ := List.getElem?_eq_some_iff.mp here
  obtain ⟨stop, ends, bound, last⟩ := stringEnd?_bounds cs quote (start + 1)
  refine ⟨stop, ?_, by omega, last⟩
  rw [skipString?, here]
  exact ends

/-- A string that has an end stops just after its quote. -/
theorem stringEnd?_last {cs : List Char} {quote : Char} {index stop : Nat}
    (ends : stringEnd? cs quote index = some stop) :
    stop = cs.length ∨ charBefore? cs stop = some quote := by
  fun_induction stringEnd? cs quote index with
  | case1 index within missing => cases ends
  | case2 index within here ih => exact ih ends
  | case3 index within here =>
    cases ends
    exact .inr here
  | case4 index within c here plain other ih => exact ih ends
  | case5 index beyond =>
    cases ends
    exact .inl rfl

theorem le_dotsEnd (cs : List Char) (index : Nat) : index ≤ dotsEnd cs index := by
  fun_induction dotsEnd cs index with
  | case1 index dot ih => omega
  | case2 index other => exact Nat.le_refl _

theorem lt_dotsEnd {cs : List Char} {index : Nat} (dot : cs[index]? = some '.') :
    index < dotsEnd cs index := by
  have after := le_dotsEnd cs (index + 1)
  rw [dotsEnd, if_pos dot]
  omega

theorem Reader.lt_stop_of_round? {reader : Reader} {cs : List Char} {index : Nat} {round : Round}
    (found : reader.round? cs index = some round) : index < round.stop := by
  unfold round? at found
  cases here : cs[index]? with
  | none =>
    rw [here] at found
    cases found
  | some c =>
    obtain ⟨stop, ends, bound, last⟩ := skipString?_bounds here
    simp only [here, ends] at found
    split at found
    · obtain ⟨literal, _, rfl⟩ := Option.map_eq_some_iff.mp found
      exact bound
    split at found
    · rename_i dot
      split at found <;> cases found
      · exact lt_dotsEnd (dot ▸ here)
      · exact Nat.lt_succ_self index
    split at found
    · cases found
      exact Nat.lt_succ_self index
    split at found
    · cases found
      exact Nat.lt_succ_self index
    split at found
    · obtain ⟨continues, _, rfl⟩ := Option.map_eq_some_iff.mp found
      exact Nat.lt_succ_self index
    · cases found
      exact Nat.lt_succ_self index

/-- Writes the text from a position on, round after round, with a mark before each access to be made
optional. There is no result when a round looks outside of the text. -/
def Reader.scan? (reader : Reader) (cs : List Char) (index : Nat) : Option (List Char) :=
  if index < cs.length then
    match _found : reader.round? cs index with
    | none => none
    | some round => (round.reader.scan? cs round.stop).map (round.written ++ ·)
  else some []
termination_by cs.length - index
decreasing_by
  have forward := lt_stop_of_round? _found
  omega

/-- The reader that remembers the same as a scan that stands at a position. -/
def Reader.placed (reader : Reader) (cs : List Char) (index : Nat) : Reader :=
  { reader with strings := .outside, last := charBefore? cs index }

namespace Reader

section placed

variable (reader : Reader) (cs : List Char) (index : Nat)

@[simp] theorem placed_strings : (reader.placed cs index).strings = .outside := rfl

@[simp] theorem placed_last : (reader.placed cs index).last = charBefore? cs index := rfl

@[simp] theorem placed_previous : (reader.placed cs index).previous = reader.previous := rfl

@[simp] theorem placed_word : (reader.placed cs index).word = reader.word := rfl

@[simp] theorem placed_constructing : (reader.placed cs index).constructing = reader.constructing := rfl

@[simp] theorem placed_inNumber : (reader.placed cs index).inNumber = reader.inNumber := rfl

@[simp] theorem placed_endsAccessTarget :
    (reader.placed cs index).endsAccessTarget = reader.endsAccessTarget := rfl

end placed

theorem placed_eq {first second : Reader} (previous : first.previous = second.previous)
    (word : first.word = second.word) (constructing : first.constructing = second.constructing)
    (cs : List Char) (index : Nat) : first.placed cs index = second.placed cs index := by
  rw [placed, previous, word, constructing]
  rfl

theorem advance_placed (reader : Reader) {cs : List Char} {index : Nat} {c : Char}
    (here : cs[index]? = some c) (plain : isQuote c = false) (next : Option Char) :
    (reader.placed cs index).advance c next =
      ((reader.placed cs index).advanceOutside c next).placed cs (index + 1) := by
  have outside : ((reader.placed cs index).advanceOutside c next).strings = .outside := by
    simp only [advanceOutside, apply_ite Reader.strings, plain, placed_strings, ite_self]
    rfl
  have last : charBefore? cs (index + 1) = some c := here
  have step : (reader.placed cs index).advance c next =
      { (reader.placed cs index).advanceOutside c next with last := some c } := rfl
  rw [step]
  generalize (reader.placed cs index).advanceOutside c next = after at outside ⊢
  rw [placed, last, ← outside]

end Reader

/-- The mark that makes the access that starts with `c` optional. -/
def accessMark (c : Char) : List Char :=
  if c = '.' then ['?'] else ['?', '.']

/-- What is written before the character `c`, followed by `next`. -/
def Reader.mark (reader : Reader) (c : Char) (next : Option Char) : List Char :=
  if reader.guards c next then accessMark c else []

theorem drop_of_getElem? {cs : List Char} {index : Nat} {c : Char} (here : cs[index]? = some c) :
    cs.drop index = c :: cs.drop (index + 1) := by
  rw [List.drop_eq_getElem?_toList_append, here]
  rfl

theorem extract_of_getElem? {cs : List Char} {index stop : Nat} {c : Char} (here : cs[index]? = some c)
    (before : index < stop) : cs.extract index stop = c :: cs.extract (index + 1) stop := by
  have size : stop - index = stop - (index + 1) + 1 := by omega
  rw [List.extract_eq_take_drop, drop_of_getElem? here, size, List.take_succ_cons,
    ← List.extract_eq_take_drop]

theorem Reader.navigate_drop (reader : Reader) {cs : List Char} {index : Nat} {c : Char}
    (here : cs[index]? = some c) :
    reader.navigate (cs.drop index) = reader.mark c cs[index + 1]? ++
      c :: (reader.advance c cs[index + 1]?).navigate (cs.drop (index + 1)) := by
  rw [drop_of_getElem? here, navigate, List.head?_drop]
  rfl

theorem Reader.navigate_drop_inside {reader : Reader} {cs : List Char} {index : Nat} {c : Char}
    (inside : reader.strings ≠ .outside) (here : cs[index]? = some c) :
    reader.navigate (cs.drop index) =
      c :: (reader.advance c cs[index + 1]?).navigate (cs.drop (index + 1)) := by
  have unmarked : reader.mark c cs[index + 1]? = [] := by simp [mark, guards, inside]
  rw [navigate_drop reader here, unmarked, List.nil_append]

/-- Inside of a string nothing is remembered but where the string is. -/
theorem Reader.placed_advance_inside {reader : Reader} (inside : reader.strings ≠ .outside) (c : Char)
    (next : Option Char) (cs : List Char) (index : Nat) :
    (reader.advance c next).placed cs index = reader.placed cs index := by
  unfold advance
  split
  · contradiction
  · rfl
  · rfl

/-- A string is written as it is. -/
theorem Reader.navigate_inside {reader : Reader} {cs : List Char} {quote : Char} {index stop : Nat}
    (inside : reader.strings = .inside quote) (ends : stringEnd? cs quote index = some stop) :
    reader.navigate (cs.drop index) =
      cs.extract index stop ++ (reader.placed cs stop).navigate (cs.drop stop) := by
  have notOutside : reader.strings ≠ .outside := by simp [inside]
  fun_induction stringEnd? cs quote index generalizing reader with
  | case1 index within missing => simp [within] at missing
  | case2 index within here ih =>
    have escaped : (reader.advance '\\' cs[index + 1]?).strings = .escaped quote := by
      rw [advance_strings, inside]
      rfl
    have escapedNotOutside : (reader.advance '\\' cs[index + 1]?).strings ≠ .outside := by simp [escaped]
    obtain ⟨_, found, bound, last⟩ := stringEnd?_bounds cs quote (index + 2)
    cases found.symm.trans ends
    rw [navigate_drop_inside notOutside here, extract_of_getElem? here (by omega)]
    cases hidden : cs[index + 1]? with
    | none =>
      have finished := List.getElem?_eq_none_iff.mp hidden
      have atEnd : stop = index + 1 := by omega
      rw [atEnd, List.drop_eq_nil_of_le finished]
      simp [navigate]
    | some d =>
      obtain ⟨stays, _⟩ := List.getElem?_eq_some_iff.mp hidden
      rw [← hidden, navigate_drop_inside escapedNotOutside hidden,
        extract_of_getElem? hidden (by omega)]
      have back : ((reader.advance '\\' cs[index + 1]?).advance d cs[index + 2]?).strings = .inside quote := by
        rw [advance_strings, escaped]
        rfl
      rw [ih back ends (by simp [back]), placed_advance_inside escapedNotOutside,
        placed_advance_inside notOutside]
      rfl
  | case3 index within here plain =>
    cases ends
    rw [navigate_drop_inside notOutside here, extract_of_getElem? here (Nat.lt_succ_self index)]
    have ended : reader.advance quote cs[index + 1]? = reader.placed cs (index + 1) := by
      simp [advance, inside, StringState.insideStep, plain, placed, charBefore?, here]
    rw [ended, List.extract_eq_take_drop, Nat.sub_self, List.take_zero]
    rfl
  | case4 index within c here plain other ih =>
    obtain ⟨_, found, bound, last⟩ := stringEnd?_bounds cs quote (index + 1)
    cases found.symm.trans ends
    have stays : (reader.advance c cs[index + 1]?).strings = .inside quote := by
      rw [advance_strings, inside]
      simp [StringState.next, StringState.insideStep, plain, other]
    rw [navigate_drop_inside notOutside here, extract_of_getElem? here (by omega),
      ih stays ends (by simp [stays]), placed_advance_inside notOutside]
    rfl
  | case5 index beyond =>
    cases ends
    rw [List.drop_eq_nil_of_le (Nat.le_of_not_lt beyond), List.drop_length,
      List.extract_eq_take_drop, List.drop_eq_nil_of_le (Nat.le_of_not_lt beyond)]
    simp [navigate]

/-- The reader in a run of dots. -/
def Reader.inDots (constructing : Bool) : Reader :=
  { last := some '.', previous := some '.', constructing := constructing }

/-- A run of dots is written as it is. -/
theorem Reader.navigate_dots (constructing : Bool) {cs : List Char} {index : Nat}
    (dot : charBefore? cs index = some '.') :
    (inDots constructing).navigate (cs.drop index) =
      List.replicate (dotsEnd cs index - index) '.' ++
        ((inDots constructing).placed cs (dotsEnd cs index)).navigate (cs.drop (dotsEnd cs index)) := by
  fun_induction dotsEnd cs index with
  | case1 index here ih =>
    have before := le_dotsEnd cs (index + 1)
    have size : dotsEnd cs (index + 1) - index = dotsEnd cs (index + 1) - (index + 1) + 1 := by omega
    have unmarked : (inDots constructing).mark '.' cs[index + 1]? = [] := by
      simp [mark, guards, startsAccess, inDotRun, inDots]
    have same : (inDots constructing).advance '.' cs[index + 1]? = inDots constructing := by
      have dotPlain : isQuote '.' = false := by decide
      simp [advance, advanceOutside, dotPlain, inDotRun, inNumber, inDots]
    rw [navigate_drop _ here, unmarked, same, ih here, size, List.replicate_succ]
    rfl
  | case2 index other =>
    have same : (inDots constructing).placed cs index = inDots constructing := by
      rw [placed, dot]
      rfl
    rw [same, Nat.sub_self]
    rfl

/-- A position where no run of dots goes on. -/
def BetweenDots (cs : List Char) (index : Nat) : Prop :=
  charBefore? cs index = some '.' → cs[index]? ≠ some '.'

theorem betweenDots_dotsEnd (cs : List Char) (index : Nat) : BetweenDots cs (dotsEnd cs index) := by
  fun_induction dotsEnd cs index with
  | case1 index dot ih => exact ih
  | case2 index other => exact fun _ => other

theorem dotsEnd_le {cs : List Char} {index : Nat} (within : index ≤ cs.length) :
    dotsEnd cs index ≤ cs.length := by
  fun_induction dotsEnd cs index with
  | case1 index dot ih =>
    obtain ⟨inside, _⟩ := List.getElem?_eq_some_iff.mp dot
    exact ih inside
  | case2 index other => exact within

/-- A round that stays inside of the text and writes what the reader writes there. -/
structure Round.Agrees (round : Round) (reader : Reader) (cs : List Char) (index : Nat) : Prop where
  within : round.stop ≤ cs.length
  between : BetweenDots cs round.stop
  text : (reader.placed cs index).navigate (cs.drop index) =
    round.written ++ (round.reader.placed cs round.stop).navigate (cs.drop round.stop)

/-- A round over one character agrees when it does with the character what the reader does. -/
theorem Round.Agrees.of_char {reader after : Reader} {cs written : List Char} {index : Nat} {c : Char}
    (here : cs[index]? = some c) (between : BetweenDots cs (index + 1))
    (writes : written = (reader.placed cs index).mark c cs[index + 1]? ++ [c])
    (same : (reader.placed cs index).advance c cs[index + 1]? = after.placed cs (index + 1)) :
    Round.Agrees ⟨written, index + 1, after⟩ reader cs index where
  within := by
    obtain ⟨inside, _⟩ := List.getElem?_eq_some_iff.mp here
    exact inside
  between := between
  text := by
    rw [Reader.navigate_drop _ here, same, writes, List.append_assoc]
    rfl

theorem isQuote_cases {c : Char} (quoted : isQuote c = true) : c = '\'' ∨ c = '"' ∨ c = '\x60' := by
  simpa [isQuote, or_assoc] using quoted

theorem Round.agrees_string {reader : Reader} {cs : List Char} {index stop : Nat} {c : Char}
    (here : cs[index]? = some c) (quoted : isQuote c = true) (ends : skipString? cs index = some stop)
    (bound : index < stop) (last : stop ≤ cs.length) :
    Round.Agrees ⟨cs.extract index stop, stop, { reader with previous := some c, word := [] }⟩
      reader cs index := by
  have inner : stringEnd? cs c (index + 1) = some stop := by
    rw [skipString?, here] at ends
    exact ends
  have notAccess : c ≠ '.' ∧ c ≠ '[' ∧ c ≠ '(' := by
    rcases isQuote_cases quoted with rfl | rfl | rfl <;> decide
  refine ⟨last, ?_, ?_⟩
  · intro dot
    rcases stringEnd?_last inner with atEnd | quote
    · simp [atEnd]
    · exact absurd (Option.some.inj (quote.symm.trans dot)) notAccess.1
  · have unmarked : (reader.placed cs index).mark c cs[index + 1]? = [] := by
      simp [Reader.mark, Reader.guards, Reader.startsAccess, notAccess]
    have opened : ((reader.placed cs index).advance c cs[index + 1]?).strings = .inside c := by
      rw [Reader.advance_strings]
      simp [Reader.placed, StringState.next, quoted]
    have same : ((reader.placed cs index).advance c cs[index + 1]?).placed cs stop =
        { reader with previous := some c, word := [] }.placed cs stop := by
      simp [Reader.placed, Reader.advance, Reader.advanceOutside, quoted]
    rw [Reader.navigate_drop _ here, unmarked, Reader.navigate_inside opened inner, same,
      extract_of_getElem? here bound]
    rfl

theorem Round.agrees_dots {reader : Reader} {cs : List Char} {index : Nat} (here : cs[index]? = some '.')
    (next : cs[index + 1]? = some '.') :
    Round.Agrees ⟨List.replicate (dotsEnd cs index - index) '.', dotsEnd cs index,
      { reader with previous := some '.', word := [] }⟩ reader cs index := by
  have dotPlain : isQuote '.' = false := by decide
  obtain ⟨inside, _⟩ := List.getElem?_eq_some_iff.mp here
  refine ⟨dotsEnd_le (Nat.le_of_lt inside), betweenDots_dotsEnd cs index, ?_⟩
  have rest : dotsEnd cs index = dotsEnd cs (index + 1) := by rw [dotsEnd, if_pos here]
  have before := le_dotsEnd cs (index + 1)
  have size : dotsEnd cs (index + 1) - index = dotsEnd cs (index + 1) - (index + 1) + 1 := by omega
  have unmarked : (reader.placed cs index).mark '.' cs[index + 1]? = [] := by
    simp [Reader.mark, Reader.guards, Reader.startsAccess, Reader.inDotRun, next]
  have same : (reader.placed cs index).advance '.' cs[index + 1]? =
      Reader.inDots reader.constructing := by
    simp [Reader.placed, Reader.advance, Reader.advanceOutside, dotPlain, Reader.inDotRun, next,
      Reader.inDots]
  have dotBefore : charBefore? cs (index + 1) = some '.' := here
  rw [Reader.navigate_drop _ here, unmarked, same, rest, size, List.replicate_succ,
    Reader.navigate_dots _ dotBefore]
  rfl

theorem Round.agrees_dot {reader : Reader} {cs : List Char} {index : Nat} (here : cs[index]? = some '.')
    (between : BetweenDots cs index) (next : cs[index + 1]? ≠ some '.') :
    Round.Agrees
      ⟨if !reader.inNumber && !reader.constructing && (cs[index + 1]?).any startsProperty &&
          reader.endsAccessTarget then ['?', '.'] else ['.'],
        index + 1, { reader with previous := some '.', word := if reader.inNumber then reader.word else [] }⟩
      reader cs index := by
  have dotPlain : isQuote '.' = false := by decide
  have alone : (reader.placed cs index).inDotRun cs[index + 1]? = false := by
    have before : charBefore? cs index ≠ some '.' := fun dot => between dot here
    simp [Reader.inDotRun, Reader.placed, next, before]
  have guarded : (reader.placed cs index).guards '.' cs[index + 1]? =
      (!reader.inNumber && !reader.constructing && (cs[index + 1]?).any startsProperty &&
        reader.endsAccessTarget) := by
    simp [Reader.guards, Reader.startsAccess, alone, Bool.and_comm, Bool.and_left_comm, Bool.and_assoc]
  refine .of_char here (fun _ => next) ?_ ?_
  · rw [Reader.mark, guarded]
    split <;> rfl
  · rw [reader.advance_placed here dotPlain]
    apply Reader.placed_eq <;> simp [Reader.advanceOutside, dotPlain, alone]

theorem Round.agrees_bracket {reader : Reader} {cs : List Char} {index : Nat} {c : Char}
    (here : cs[index]? = some c) (bracket : c = '[' ∨ c = '(') :
    Round.Agrees
      ⟨if !reader.constructing && reader.endsAccessTarget then ['?', '.', c] else [c], index + 1,
        { reader with
          previous := some c
          word := []
          constructing := if c = '(' then false else reader.constructing }⟩
      reader cs index := by
  have notDot : c ≠ '.' := by rcases bracket with rfl | rfl <;> decide
  have guarded : (reader.placed cs index).guards c cs[index + 1]? =
      (!reader.constructing && reader.endsAccessTarget) := by
    have starts : (reader.placed cs index).startsAccess c cs[index + 1]? = true := by
      rcases bracket with rfl | rfl <;> rfl
    simp [Reader.guards, starts]
  refine .of_char here (fun dot => absurd (Option.some.inj (here.symm.trans dot)) notDot) ?_ ?_
  · rw [Reader.mark, guarded, accessMark, if_neg notDot]
    split <;> rfl
  · have plain : isQuote c = false := by rcases bracket with rfl | rfl <;> decide
    rw [reader.advance_placed here plain]
    rcases bracket with rfl | rfl <;> apply Reader.placed_eq <;> simp [Reader.advanceOutside, plain]

/-- A round over one character that starts no access. -/
theorem Round.Agrees.of_plain {reader after : Reader} {cs : List Char} {index : Nat} {c : Char}
    (here : cs[index]? = some c) (plain : c ≠ '.' ∧ c ≠ '[' ∧ c ≠ '(')
    (same : (reader.placed cs index).advance c cs[index + 1]? = after.placed cs (index + 1)) :
    Round.Agrees ⟨[c], index + 1, after⟩ reader cs index := by
  refine .of_char here (fun dot => absurd (Option.some.inj (here.symm.trans dot)) plain.1) ?_ same
  simp [Reader.mark, Reader.guards, Reader.startsAccess, plain]

theorem Reader.continuesWordAt?_eq (reader : Reader) {cs : List Char} {index : Nat}
    (inside : index < cs.length) :
    reader.continuesWordAt? cs index = some (reader.placed cs index).continuesWord := by
  cases index with
  | zero => rfl
  | succ index =>
    have before := List.getElem?_eq_getElem (Nat.lt_of_succ_lt inside)
    simp [continuesWordAt?, continuesWord, placed, charBefore?, before, inNumber]

/-- Each round stays inside of the text and writes what the reader writes there. -/
theorem Reader.round?_agrees (reader : Reader) {cs : List Char} {index : Nat} (inside : index < cs.length)
    (between : BetweenDots cs index) :
    ∃ round, reader.round? cs index = some round ∧ round.Agrees reader cs index := by
  have here := List.getElem?_eq_getElem inside
  generalize cs[index] = c at here
  unfold round?
  simp only [here]
  by_cases quoted : isQuote c = true
  · obtain ⟨stop, ends, bound, last⟩ := skipString?_bounds here
    have cut : slice? cs index stop = some (cs.extract index stop) := if_pos ⟨Nat.le_of_lt bound, last⟩
    simp only [quoted, if_true, ends, cut]
    exact ⟨_, rfl, Round.agrees_string here quoted ends bound last⟩
  by_cases dot : c = '.'
  · subst dot
    rw [if_neg quoted, if_pos rfl]
    split
    · rename_i next
      exact ⟨_, rfl, Round.agrees_dots here next⟩
    · rename_i next
      exact ⟨_, rfl, Round.agrees_dot here between next⟩
  rw [if_neg quoted, if_neg dot]
  split
  · rename_i bracket
    exact ⟨_, rfl, Round.agrees_bracket here (by simpa using bracket)⟩
  rename_i other
  simp only [Bool.or_eq_true, decide_eq_true_eq, not_or] at other
  have plain : c ≠ '.' ∧ c ≠ '[' ∧ c ≠ '(' := ⟨dot, other⟩
  have advanced := reader.advance_placed here (Bool.eq_false_iff.mpr quoted) cs[index + 1]?
  rw [advanceOutside, if_neg quoted, if_neg dot, if_neg other.1, if_neg other.2] at advanced
  split
  · rename_i space
    rw [if_pos space] at advanced
    exact ⟨_, rfl, .of_plain here plain advanced⟩
  rename_i visible
  rw [if_neg visible] at advanced
  split
  · rename_i identifier
    rw [if_pos identifier] at advanced
    rw [continuesWordAt?_eq reader inside]
    refine ⟨_, rfl, .of_plain here plain (advanced.trans ?_)⟩
    split <;> rfl
  · rename_i operator
    rw [if_neg operator] at advanced
    exact ⟨_, rfl, .of_plain here plain advanced⟩

/-- The scan by positions never looks outside of the text, and it writes what the reader writes. -/
theorem Reader.scan?_eq (reader : Reader) {cs : List Char} {index : Nat} (between : BetweenDots cs index) :
    reader.scan? cs index = some ((reader.placed cs index).navigate (cs.drop index)) := by
  fun_induction scan? reader cs index with
  | case1 reader index inside missing =>
    obtain ⟨round, found, _⟩ := reader.round?_agrees inside between
    cases missing.symm.trans found
  | case2 reader index inside round found ih =>
    obtain ⟨_, same, agrees⟩ := reader.round?_agrees inside between
    cases found.symm.trans same
    rw [ih agrees.between, agrees.text]
    rfl
  | case3 reader index beyond =>
    rw [List.drop_eq_nil_of_le (Nat.le_of_not_lt beyond)]
    rfl

end TemplateCompiler.Script
