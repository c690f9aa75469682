import TemplateCompiler.Text.Pattern

namespace TemplateCompiler.Text

namespace PatternPart

theorem greedy_cons (accepts : Char → Bool) (next : List Char → Option (List Char)) (c : Char)
    (cs : List Char) :
    greedy accepts next (c :: cs) =
      if accepts c then (greedy accepts next cs).or (next (c :: cs)) else next (c :: cs) := by
  rw [greedy]
  cases greedy accepts next cs <;> rfl

/-- A run gives nothing back if what follows it never begins with one of its characters. -/
theorem greedy_eq_dropWhile {accepts : Char → Bool} {next : List Char → Option (List Char)}
    (refused : ∀ c cs, accepts c = true → next (c :: cs) = none) (cs : List Char) :
    greedy accepts next cs = next (cs.dropWhile accepts) := by
  induction cs with
  | nil => rfl
  | cons c cs ih =>
    rw [greedy_cons, List.dropWhile_cons]
    split
    · rename_i accepted
      rw [ih, refused c cs accepted, Option.or_none]
    · rfl

/-- A run at the end of a pattern takes all that it can. -/
theorem greedy_some (accepts : Char → Bool) (cs : List Char) :
    greedy accepts some cs = some (cs.dropWhile accepts) := by
  induction cs with
  | nil => rfl
  | cons c cs ih =>
    rw [greedy_cons, List.dropWhile_cons]
    split
    · rw [ih, Option.some_or]
    · rfl

theorem greedy_isSome_iff {accepts : Char → Bool} {next : List Char → Option (List Char)}
    {cs : List Char} :
    (greedy accepts next cs).isSome = true ↔
      ∃ taken left, cs = taken ++ left ∧ (∀ c ∈ taken, accepts c = true) ∧ (next left).isSome = true := by
  induction cs with
  | nil =>
    rw [greedy]
    constructor
    · intro found
      exact ⟨[], [], rfl, List.forall_mem_nil _, found⟩
    · rintro ⟨taken, left, split, _, found⟩
      obtain ⟨rfl, rfl⟩ := List.append_eq_nil_iff.mp split.symm
      exact found
  | cons c cs ih =>
    rw [greedy_cons]
    constructor
    · intro found
      by_cases accepted : accepts c = true
      · rw [if_pos accepted, Option.isSome_or, Bool.or_eq_true] at found
        rcases found with later | here
        · obtain ⟨taken, left, rfl, all, rest⟩ := ih.mp later
          exact ⟨c :: taken, left, rfl, List.forall_mem_cons.mpr ⟨accepted, all⟩, rest⟩
        · exact ⟨[], c :: cs, rfl, List.forall_mem_nil _, here⟩
      · rw [if_neg accepted] at found
        exact ⟨[], c :: cs, rfl, List.forall_mem_nil _, found⟩
    · rintro ⟨taken, left, split, all, found⟩
      cases taken with
      | nil =>
        rw [List.nil_append] at split
        rw [← split] at found
        split
        · rw [Option.isSome_or, found, Bool.or_true]
        · exact found
      | cons d taken =>
        obtain ⟨rfl, rest⟩ := List.cons.inj split
        obtain ⟨accepted, others⟩ := List.forall_mem_cons.mp all
        rw [if_pos accepted, Option.isSome_or, ih.mpr ⟨taken, left, rest, others, found⟩, Bool.true_or]

theorem rest?_one_eq_some_iff {accepts : Char → Bool} {parts : List PatternPart} {cs rest : List Char} :
    rest? (.one accepts :: parts) cs = some rest ↔
      ∃ c tail, cs = c :: tail ∧ accepts c = true ∧ rest? parts tail = some rest := by
  cases cs with
  | nil => simp [rest?]
  | cons c tail =>
    rw [rest?, Option.ite_none_right_eq_some]
    constructor
    · rintro ⟨accepted, found⟩
      exact ⟨c, tail, rfl, accepted, found⟩
    · rintro ⟨_, _, same, accepted, found⟩
      cases same
      exact ⟨accepted, found⟩

end PatternPart

namespace Pattern

theorem rest?_eq_some_iff {pattern : Pattern} {cs rest : List Char} :
    pattern.rest? cs = some rest ↔
      ∃ c tail, cs = c :: tail ∧ pattern.first c = true ∧ PatternPart.rest? pattern.parts tail = some rest := by
  have one : pattern.rest? cs = PatternPart.rest? (.one pattern.first :: pattern.parts) cs := by
    cases cs <;> rfl
  rw [one, PatternPart.rest?_one_eq_some_iff]

/-- A pattern does not match exactly if it matches nowhere. -/
theorem find?_eq_none_iff {pattern : Pattern} {cs : List Char} :
    pattern.find? cs = none ↔ ∀ before after, cs = before ++ after → pattern.rest? after = none := by
  induction cs with
  | nil =>
    refine ⟨fun _ before after split => ?_, fun _ => rfl⟩
    obtain ⟨_, rfl⟩ := List.append_eq_nil_iff.mp split.symm
    rfl
  | cons c cs ih =>
    rw [find?]
    constructor
    · intro none before after split
      split at none
      · cases none
      · rename_i here
        cases before with
        | nil =>
          rw [List.nil_append] at split
          rwa [← split]
        | cons d before =>
          exact ih.mp (Option.map_eq_none_iff.mp none) before after (List.cons.inj split).2
    · intro nowhere
      have here := nowhere [] (c :: cs) rfl
      have later : pattern.find? cs = none :=
        ih.mpr fun before after split => nowhere (c :: before) after (by rw [split]; rfl)
      rw [here, later]
      rfl

/-- What is found is the leftmost match: none starts in the text before it. -/
theorem find?_eq_some_iff {pattern : Pattern} {cs before rest : List Char} :
    pattern.find? cs = some (before, rest) ↔
      ∃ after, cs = before ++ after ∧ pattern.rest? after = some rest ∧
        ∀ left right, before = left ++ right → right ≠ [] → pattern.rest? (right ++ after) = none := by
  induction cs generalizing before with
  | nil =>
    refine ⟨nofun, fun ⟨after, split, found, _⟩ => ?_⟩
    obtain ⟨_, rfl⟩ := List.append_eq_nil_iff.mp split.symm
    cases found
  | cons c cs ih =>
    rw [find?]
    constructor
    · intro found
      split at found
      · rename_i here
        cases found
        refine ⟨c :: cs, rfl, here, fun left right split some => ?_⟩
        exact absurd (List.append_eq_nil_iff.mp split.symm).2 some
      · rename_i here
        obtain ⟨⟨inner, rest'⟩, later, same⟩ := Option.map_eq_some_iff.mp found
        obtain ⟨rfl, rfl⟩ := Prod.mk.inj same
        obtain ⟨after, rfl, matched, first⟩ := ih.mp later
        refine ⟨after, rfl, matched, fun left right split some => ?_⟩
        cases left with
        | nil =>
          rw [List.nil_append] at split
          rwa [← split]
        | cons d left => exact first left right (List.cons.inj split).2 some
    · rintro ⟨after, split, found, first⟩
      cases before with
      | nil =>
        rw [List.nil_append] at split
        rw [split, found]
      | cons d before =>
        obtain ⟨rfl, tail⟩ := List.cons.inj split
        have here := first [] (c :: before) rfl (List.cons_ne_nil _ _)
        have later := ih.mpr ⟨after, tail, found, fun left right inner =>
          first (c :: left) right (by rw [inner]; rfl)⟩
        rw [split, here, later]
        rfl

theorem occursIn_iff {pattern : Pattern} {cs : List Char} :
    pattern.occursIn cs = true ↔
      ∃ before after, cs = before ++ after ∧ (pattern.rest? after).isSome = true := by
  rw [occursIn]
  cases found : pattern.find? cs with
  | none =>
    refine ⟨nofun, fun ⟨before, after, split, matched⟩ => ?_⟩
    rw [find?_eq_none_iff.mp found before after split] at matched
    exact matched
  | some pair =>
    obtain ⟨after, split, matched, _⟩ := find?_eq_some_iff.mp found
    exact ⟨fun _ => ⟨pair.1, after, split, by rw [matched]; rfl⟩, fun _ => rfl⟩

theorem eraseAll_of_none {pattern : Pattern} {cs : List Char} (none : pattern.find? cs = none) :
    pattern.eraseAll cs = cs := by
  rw [eraseAll]
  split
  · rfl
  · rename_i found
    cases none.symm.trans found

theorem eraseAll_of_some {pattern : Pattern} {cs before after : List Char}
    (some : pattern.find? cs = some (before, after)) :
    pattern.eraseAll cs = before ++ pattern.eraseAll after := by
  rw [eraseAll]
  split
  · rename_i found
    cases some.symm.trans found
  · rename_i found
    cases some.symm.trans found
    rfl

/-- A character at which no match starts is kept. -/
theorem eraseAll_cons {pattern : Pattern} {c : Char} {cs : List Char}
    (refused : pattern.rest? (c :: cs) = none) :
    pattern.eraseAll (c :: cs) = c :: pattern.eraseAll cs := by
  cases found : pattern.find? cs with
  | none =>
    have none : pattern.find? (c :: cs) = none := by rw [find?, refused, found, Option.map_none]
    rw [eraseAll_of_none none, eraseAll_of_none found]
  | some pair =>
    have later : pattern.find? (c :: cs) = some (c :: pair.1, pair.2) := by
      rw [find?, refused, found, Option.map_some]
    rw [eraseAll_of_some later, eraseAll_of_some found, List.cons_append]

theorem split_of_none {pattern : Pattern} {cs : List Char} (none : pattern.find? cs = none) :
    pattern.split cs = [cs] := by
  rw [split]
  split
  · rfl
  · rename_i found
    cases none.symm.trans found

theorem split_of_some {pattern : Pattern} {cs before after : List Char}
    (some : pattern.find? cs = some (before, after)) :
    pattern.split cs = before :: pattern.split after := by
  rw [split]
  split
  · rename_i found
    cases some.symm.trans found
  · rename_i found
    cases some.symm.trans found
    rfl

theorem split_ne_nil (pattern : Pattern) (cs : List Char) : pattern.split cs ≠ [] := by
  cases found : pattern.find? cs with
  | none =>
    rw [split_of_none found]
    exact List.cons_ne_nil _ _
  | some pair =>
    rw [split_of_some found]
    exact List.cons_ne_nil _ _

/-- A text falls into two pieces exactly if the pattern is found in it and not again after that. -/
theorem split_eq_pair_iff {pattern : Pattern} {cs first second : List Char} :
    pattern.split cs = [first, second] ↔
      pattern.find? cs = some (first, second) ∧ pattern.find? second = none := by
  constructor
  · intro pieces
    cases found : pattern.find? cs with
    | none =>
      rw [split_of_none found] at pieces
      cases pieces
    | some pair =>
      obtain ⟨before, after⟩ := pair
      rw [split_of_some found] at pieces
      obtain ⟨rfl, later⟩ := List.cons.inj pieces
      cases again : pattern.find? after with
      | none =>
        rw [split_of_none again] at later
        cases later
        exact ⟨rfl, again⟩
      | some pair =>
        rw [split_of_some again] at later
        exact absurd (List.cons.inj later).2 (split_ne_nil pattern _)
  · rintro ⟨found, none⟩
    rw [split_of_some found, split_of_none none]

end Pattern

end TemplateCompiler.Text
