import TemplateCompiler.Proofs.NavigationScan

namespace TemplateCompiler.Script

theorem skipString?_lt {cs : List Char} {start stop : Nat} (ends : skipString? cs start = some stop) :
    start < stop := by
  cases here : cs[start]? with
  | none =>
    rw [skipString?, here] at ends
    cases ends
  | some quote =>
    obtain ⟨_, found, bound, _⟩ := skipString?_bounds here
    cases found.symm.trans ends
    exact bound

/-- The strings of the text from `index` on, each from its opening quote to the position after it. -/
def stringSpans (cs : List Char) (index : Nat) : List (Nat × Nat) :=
  match _here : cs[index]? with
  | none => []
  | some c =>
    if isQuote c then
      match _ends : skipString? cs index with
      | none => []
      | some stop => (index, stop) :: stringSpans cs stop
    else stringSpans cs (index + 1)
termination_by cs.length - index
decreasing_by
  all_goals obtain ⟨inside, _⟩ := List.getElem?_eq_some_iff.mp _here
  · have forward := skipString?_lt _ends
    omega
  · omega

/-- The last character before a position that is not white space. -/
def lastVisible? (cs : List Char) (index : Nat) : Option Char :=
  ((cs.take index).filter fun c => !Text.isWhiteSpace c).getLast?

/-- A place to insert a mark: just before an access that stands outside of strings, is not one of
several dots and follows a value. -/
structure AccessPoint (cs : List Char) (point : Nat) : Prop where
  access : cs[point]? ∈ [some '.', some '[', some '(']
  outside : ∀ span ∈ stringSpans cs 0, point < span.1 ∨ span.2 ≤ point
  single : cs[point]? = some '.' → charBefore? cs point ≠ some '.' ∧ cs[point + 1]? ≠ some '.'
  target : ∃ c ∈ lastVisible? cs point, c = ')' ∨ c = ']' ∨ isIdentifierChar c = true

/-- The text with a mark inserted at each of the points. -/
def withMarks (points : List Nat) (cs : List Char) : List Char :=
  cs.zipIdx.flatMap fun entry =>
    if entry.2 ∈ points then accessMark entry.1 ++ [entry.1] else [entry.1]

/-- The reader after the first `index` characters of the text. -/
def readerAt (cs : List Char) : Nat → Reader
  | 0 => {}
  | index + 1 =>
    match cs[index]? with
    | none => readerAt cs index
    | some c => (readerAt cs index).advance c cs[index + 1]?

theorem readerAt_succ {cs : List Char} {index : Nat} {c : Char} (here : cs[index]? = some c) :
    readerAt cs (index + 1) = (readerAt cs index).advance c cs[index + 1]? := by
  rw [readerAt, here]

theorem readerAt_succ_strings {cs : List Char} {index : Nat} {c : Char} (here : cs[index]? = some c) :
    (readerAt cs (index + 1)).strings = (readerAt cs index).strings.next c := by
  rw [readerAt_succ here, Reader.advance_strings]

/-- The reader is in a string at each position from `start` up to `stop`. -/
def InString (cs : List Char) (start stop : Nat) : Prop :=
  ∀ point, start ≤ point → point < stop → (readerAt cs point).strings ≠ .outside

theorem InString.extend {cs : List Char} {start stop : Nat} (first : (readerAt cs start).strings ≠ .outside)
    (rest : InString cs (start + 1) stop) : InString cs start stop := by
  intro point after before
  rcases Nat.eq_or_lt_of_le after with rfl | later
  · exact first
  · exact rest point later before

theorem InString.of_le {cs : List Char} {start stop : Nat} (reversed : stop ≤ start) :
    InString cs start stop := by
  intro point after before
  omega

/-- A reader that is in a string leaves it at the end of the string and not before. -/
theorem inString_stringEnd? {cs : List Char} {quote : Char} {index stop : Nat}
    (inside : (readerAt cs index).strings = .inside quote) (ends : stringEnd? cs quote index = some stop) :
    InString cs index stop ∧ (stop < cs.length → (readerAt cs stop).strings = .outside) := by
  have here : (readerAt cs index).strings ≠ .outside := by simp [inside]
  fun_induction stringEnd? cs quote index with
  | case1 index within missing => cases ends
  | case2 index within backslash ih =>
    have escaped : (readerAt cs (index + 1)).strings = .escaped quote := by
      rw [readerAt_succ_strings backslash, inside]
      rfl
    have next : (readerAt cs (index + 1)).strings ≠ .outside := by simp [escaped]
    cases hidden : cs[index + 1]? with
    | none =>
      -- The backslash is the last character, so that the string ends with the text.
      have finished := List.getElem?_eq_none_iff.mp hidden
      obtain ⟨_, found, _, last⟩ := stringEnd?_bounds cs quote (index + 2)
      cases found.symm.trans ends
      exact ⟨.extend here (.of_le (by omega)), fun short => by omega⟩
    | some d =>
      have back : (readerAt cs (index + 2)).strings = .inside quote := by
        rw [readerAt_succ_strings hidden, escaped]
        rfl
      obtain ⟨between, outside⟩ := ih back ends (by simp [back])
      exact ⟨.extend here (.extend next between), outside⟩
  | case3 index within last plain =>
    cases ends
    have ended : (readerAt cs (index + 1)).strings = .outside := by
      rw [readerAt_succ_strings last, inside]
      simp [StringState.next, StringState.insideStep, plain]
    exact ⟨.extend here (.of_le (Nat.le_refl _)), fun _ => ended⟩
  | case4 index within c char plain other ih =>
    have stays : (readerAt cs (index + 1)).strings = .inside quote := by
      rw [readerAt_succ_strings char, inside]
      simp [StringState.next, StringState.insideStep, plain, other]
    obtain ⟨between, outside⟩ := ih stays ends (by simp [stays])
    exact ⟨.extend here between, outside⟩
  | case5 index beyond =>
    cases ends
    exact ⟨.of_le (Nat.le_of_not_lt beyond), fun short => absurd short (Nat.lt_irrefl _)⟩

/-- A reader is in a string from just after the opening quote up to the end of the string. -/
theorem inString_of_mem_stringSpans {cs : List Char} {index : Nat}
    (outside : index < cs.length → (readerAt cs index).strings = .outside) :
    ∀ span ∈ stringSpans cs index, (∃ quote ∈ cs[span.1]?, isQuote quote = true) ∧
      InString cs (span.1 + 1) span.2 := by
  fun_induction stringSpans cs index with
  | case1 index missing => simp
  | case2 index quote here quoted missing => simp
  | case3 index quote here quoted stop ends ih =>
    obtain ⟨within, _⟩ := List.getElem?_eq_some_iff.mp here
    have opened : (readerAt cs (index + 1)).strings = .inside quote := by
      rw [readerAt_succ_strings here, outside within]
      simp [StringState.next, quoted]
    rw [skipString?, here] at ends
    obtain ⟨between, after⟩ := inString_stringEnd? opened ends
    intro span member
    rcases List.mem_cons.mp member with rfl | later
    · exact ⟨⟨quote, here, quoted⟩, between⟩
    · exact ih after span later
  | case4 index c here plain ih =>
    obtain ⟨within, _⟩ := List.getElem?_eq_some_iff.mp here
    apply ih
    intro _
    rw [readerAt_succ_strings here, outside within]
    simp [StringState.next, plain]

theorem lastVisible?_succ {cs : List Char} {index : Nat} {c : Char} (here : cs[index]? = some c) :
    lastVisible? cs (index + 1) = if Text.isWhiteSpace c then lastVisible? cs index else some c := by
  rw [lastVisible?, List.take_add_one, here, List.filter_append, List.getLast?_append]
  cases space : Text.isWhiteSpace c <;> simp [space, lastVisible?]

theorem isQuote_eq_false_of_space {c : Char} (space : Text.isWhiteSpace c = true) : isQuote c = false := by
  cases quoted : isQuote c with
  | false => rfl
  | true => rcases isQuote_cases quoted with rfl | rfl | rfl <;> cases space

theorem Reader.advanceOutside_previous (reader : Reader) (c : Char) (next : Option Char) :
    (reader.advanceOutside c next).previous =
      if Text.isWhiteSpace c then reader.previous else some c := by
  cases space : Text.isWhiteSpace c with
  | true =>
    have visible : ∀ d, Text.isWhiteSpace d = false → c ≠ d := by
      rintro d visible rfl
      cases space.symm.trans visible
    rw [advanceOutside, isQuote_eq_false_of_space space]
    simp [visible '.' (by decide), visible '[' (by decide), visible '(' (by decide), space]
  | false =>
    simp only [advanceOutside, space, apply_ite Reader.previous, ite_self, Bool.false_eq_true, if_false]

/-- What a reader remembers of the text before a position. -/
structure Reader.Knows (reader : Reader) (cs : List Char) (index : Nat) : Prop where
  last : reader.last = charBefore? cs index
  previous : ∀ c ∈ reader.previous, isQuote c = false →
    reader.strings = .outside ∧ lastVisible? cs index = some c

theorem Reader.advance_last (reader : Reader) (c : Char) (next : Option Char) :
    (reader.advance c next).last = some c := by
  unfold advance
  split <;> rfl

theorem Reader.advance_previous_inside {reader : Reader} (inside : reader.strings ≠ .outside) (c : Char)
    (next : Option Char) : (reader.advance c next).previous = reader.previous := by
  unfold advance
  split
  · contradiction
  · rfl
  · rfl

theorem Reader.advance_previous_outside {reader : Reader} (outside : reader.strings = .outside) (c : Char)
    (next : Option Char) :
    (reader.advance c next).previous = if Text.isWhiteSpace c then reader.previous else some c := by
  rw [advance, outside]
  exact reader.advanceOutside_previous c next

theorem Reader.Knows.advance {reader : Reader} {cs : List Char} {index : Nat} {c : Char}
    (knows : reader.Knows cs index) (here : cs[index]? = some c) (next : Option Char) :
    (reader.advance c next).Knows cs (index + 1) where
  last := (reader.advance_last c next).trans here.symm
  previous := by
    intro d previous plain
    by_cases outside : reader.strings = .outside
    · rw [advance_previous_outside outside] at previous
      rw [advance_strings, outside, lastVisible?_succ here]
      cases space : Text.isWhiteSpace c with
      | true =>
        rw [space] at previous
        obtain ⟨_, same⟩ := knows.previous d previous plain
        exact ⟨by simp [StringState.next, isQuote_eq_false_of_space space], same⟩
      | false =>
        rw [space] at previous
        cases previous
        exact ⟨by simp [StringState.next, plain], rfl⟩
    · -- In a string the last visible character is the quote that opened it.
      rw [advance_previous_inside outside] at previous
      exact absurd (knows.previous d previous plain).1 outside

theorem knows_readerAt {cs : List Char} {index : Nat} (within : index ≤ cs.length) :
    (readerAt cs index).Knows cs index := by
  induction index with
  | zero => exact ⟨rfl, fun c previous => by cases previous⟩
  | succ index ih =>
    have here := List.getElem?_eq_getElem within
    rw [readerAt_succ here]
    exact (ih (Nat.le_of_succ_le within)).advance here _

/-- The positions at which a reader of the text inserts a mark. -/
def markedPoints (cs : List Char) : List Nat :=
  (List.range cs.length).filter fun index =>
    (cs[index]?).any fun c => (readerAt cs index).guards c cs[index + 1]?

theorem mem_markedPoints {cs : List Char} {index : Nat} {c : Char} (here : cs[index]? = some c) :
    index ∈ markedPoints cs ↔ (readerAt cs index).guards c cs[index + 1]? = true := by
  obtain ⟨within, _⟩ := List.getElem?_eq_some_iff.mp here
  rw [markedPoints, List.mem_filter, here, List.mem_range]
  simp [within]

/-- A value ends with a closing bracket or with a word. -/
theorem Reader.endsAccessTarget_previous {reader : Reader} (target : reader.endsAccessTarget = true) :
    ∃ c ∈ reader.previous, isQuote c = false ∧ (c = ')' ∨ c = ']' ∨ isIdentifierChar c = true) := by
  unfold endsAccessTarget at target
  split at target
  · cases target
  · rename_i c previous
    have form : c = ')' ∨ c = ']' ∨ isIdentifierChar c = true := by
      grind
    refine ⟨c, previous, ?_, form⟩
    cases quoted : isQuote c with
    | false => rfl
    | true => rcases isQuote_cases quoted with rfl | rfl | rfl <;> exact absurd form (by decide)

/-- Marks are inserted at access points only. -/
theorem accessPoint_of_marked {cs : List Char} {point : Nat} (marked : point ∈ markedPoints cs) :
    AccessPoint cs point := by
  have within : point < cs.length := List.mem_range.mp (List.mem_filter.mp marked).1
  have here := List.getElem?_eq_getElem within
  have guards := (mem_markedPoints here).mp marked
  generalize cs[point] = c at here guards
  have knows := knows_readerAt (Nat.le_of_lt within)
  simp only [Reader.guards, Reader.startsAccess, Bool.and_eq_true, Bool.or_eq_true, beq_iff_eq,
    Bool.not_eq_true'] at guards
  obtain ⟨⟨⟨outside, starts⟩, _⟩, target⟩ := guards
  have access : c = '.' ∨ c = '[' ∨ c = '(' := by
    rcases starts with (bracket | bracket) | ⟨⟨⟨dot, _⟩, _⟩, _⟩
    · exact .inr (.inl bracket)
    · exact .inr (.inr bracket)
    · exact .inl dot
  refine ⟨?_, ?_, ?_, ?_⟩
  · rw [here]
    rcases access with rfl | rfl | rfl <;> simp
  · intro span member
    obtain ⟨⟨quote, opening, quoted⟩, between⟩ := inString_of_mem_stringSpans (fun _ => rfl) span member
    have notOpening : point ≠ span.1 := by
      rintro rfl
      cases here.symm.trans opening
      rcases access with rfl | rfl | rfl <;> cases quoted
    have notInside : span.1 + 1 ≤ point → span.2 ≤ point := fun after =>
      Nat.le_of_not_lt fun before => between point after before outside
    omega
  · intro dot
    cases here.symm.trans dot
    have single : (readerAt cs point).inDotRun cs[point + 1]? = false := by
      rcases starts with (impossible | impossible) | ⟨⟨⟨_, single⟩, _⟩, _⟩
      · cases impossible
      · cases impossible
      · exact single
    rw [Reader.inDotRun, knows.last] at single
    simpa [and_comm] using single
  · obtain ⟨d, previous, plain, form⟩ := Reader.endsAccessTarget_previous target
    exact ⟨d, (knows.previous d previous plain).2, form⟩

theorem navigate_readerAt (cs : List Char) (index : Nat) :
    (readerAt cs index).navigate (cs.drop index) =
      ((cs.drop index).zipIdx index).flatMap fun entry =>
        if entry.2 ∈ markedPoints cs then accessMark entry.1 ++ [entry.1] else [entry.1] := by
  cases here : cs[index]? with
  | none =>
    rw [List.drop_eq_nil_of_le (List.getElem?_eq_none_iff.mp here)]
    rfl
  | some c =>
    have rest := navigate_readerAt cs (index + 1)
    have written : (readerAt cs index).mark c cs[index + 1]? ++ [c] =
        if index ∈ markedPoints cs then accessMark c ++ [c] else [c] := by
      simp only [mem_markedPoints here, Reader.mark]
      split <;> rfl
    rw [Reader.navigate_drop _ here, ← readerAt_succ here, rest, drop_of_getElem? here, List.zipIdx_cons,
      List.flatMap_cons, ← written, List.append_assoc]
    rfl
termination_by cs.length - index
decreasing_by
  obtain ⟨within, _⟩ := List.getElem?_eq_some_iff.mp here
  omega

/-- Making accesses optional inserts marks at access points and changes nothing else. The marks are
found by a scan that looks at positions of the text only. -/
theorem safeNavigation_inserts_marks (expression : String) :
    Reader.scan? {} expression.toList 0 = some (safeNavigation expression).toList ∧
    ∃ points : List Nat, (safeNavigation expression).toList = withMarks points expression.toList ∧
      ∀ point ∈ points, AccessPoint expression.toList point := by
  have text : (safeNavigation expression).toList =
      (readerAt expression.toList 0).navigate expression.toList := String.toList_ofList
  refine ⟨?_, markedPoints expression.toList, ?_, fun point => accessPoint_of_marked⟩
  · have between : BetweenDots expression.toList 0 := by
      intro dot
      cases dot
    rw [Reader.scan?_eq {} between, text]
    rfl
  · rw [text]
    exact navigate_readerAt expression.toList 0

end TemplateCompiler.Script
