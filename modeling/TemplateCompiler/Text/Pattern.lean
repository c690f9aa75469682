namespace TemplateCompiler.Text

/-- One part of a pattern. -/
inductive PatternPart where
  /-- One character of a class. -/
  | one (accepts : Char → Bool)
  /-- As many characters of a class as the later parts allow. -/
  | many (accepts : Char → Bool)
  /-- The end of the text. -/
  | finish

/-- A text pattern. It starts with one character of a class, so that no match is empty. -/
structure Pattern where
  first : Char → Bool
  parts : List PatternPart

namespace PatternPart

/-- Takes characters of a class while it can and gives them back one by one until `next` accepts. -/
def greedy (accepts : Char → Bool) (next : List Char → Option (List Char)) :
    List Char → Option (List Char)
  | [] => next []
  | c :: cs =>
    if accepts c then
      match greedy accepts next cs with
      | some rest => some rest
      | none => next (c :: cs)
    else next (c :: cs)

/-- The text that is left after the parts have matched at its start. -/
def rest? : List PatternPart → List Char → Option (List Char)
  | [], cs => some cs
  | one _ :: _, [] => none
  | one accepts :: parts, c :: cs => if accepts c then rest? parts cs else none
  | many accepts :: parts, cs => greedy accepts (rest? parts) cs
  | finish :: parts, cs => if cs.isEmpty then rest? parts cs else none

theorem greedy_length_le {accepts : Char → Bool} {next : List Char → Option (List Char)}
    (shorter : ∀ cs rest, next cs = some rest → rest.length ≤ cs.length)
    {cs rest : List Char} (found : greedy accepts next cs = some rest) :
    rest.length ≤ cs.length := by
  induction cs with
  | nil => exact shorter _ _ found
  | cons c cs ih =>
    simp only [greedy] at found
    split at found
    · split at found
      · rename_i later
        have bound := ih (later.trans found)
        simp only [List.length_cons]
        omega
      · exact shorter _ _ found
    · exact shorter _ _ found

theorem rest?_length_le {parts : List PatternPart} {cs rest : List Char}
    (found : rest? parts cs = some rest) : rest.length ≤ cs.length := by
  induction parts generalizing cs rest with
  | nil => simp only [rest?, Option.some.injEq] at found; simp [found]
  | cons part parts ih =>
    cases part with
    | one accepts =>
      cases cs with
      | nil => simp [rest?] at found
      | cons c cs =>
        simp only [rest?] at found
        split at found
        · have bound := ih found
          simp only [List.length_cons]
          omega
        · cases found
    | many accepts => exact greedy_length_le (fun _ _ => ih) found
    | finish =>
      simp only [rest?] at found
      split at found
      · exact ih found
      · cases found

end PatternPart

namespace Pattern

/-- The text that is left after a match at its start. -/
def rest? (pattern : Pattern) : List Char → Option (List Char)
  | [] => none
  | c :: cs => if pattern.first c then PatternPart.rest? pattern.parts cs else none

/-- The texts before and after the leftmost match. -/
def find? (pattern : Pattern) : List Char → Option (List Char × List Char)
  | [] => none
  | c :: cs =>
    match pattern.rest? (c :: cs) with
    | some after => some ([], after)
    | none => (pattern.find? cs).map fun (before, after) => (c :: before, after)

/-- Whether the pattern matches anywhere in the text. -/
def occursIn (pattern : Pattern) (cs : List Char) : Bool :=
  (pattern.find? cs).isSome

theorem rest?_length_lt {pattern : Pattern} {cs rest : List Char}
    (found : pattern.rest? cs = some rest) : rest.length < cs.length := by
  cases cs with
  | nil => simp [rest?] at found
  | cons c cs =>
    simp only [rest?] at found
    split at found
    · have bound := PatternPart.rest?_length_le found
      simp only [List.length_cons]
      omega
    · cases found

theorem find?_length_lt {pattern : Pattern} {cs before after : List Char}
    (found : pattern.find? cs = some (before, after)) : after.length < cs.length := by
  induction cs generalizing before with
  | nil => simp [find?] at found
  | cons c cs ih =>
    simp only [find?] at found
    split at found
    · rename_i here
      simp only [Option.some.injEq, Prod.mk.injEq] at found
      exact found.2 ▸ rest?_length_lt here
    · obtain ⟨⟨inner, _⟩, later, equal⟩ := Option.map_eq_some_iff.1 found
      simp only [Prod.mk.injEq] at equal
      have bound := ih (equal.2 ▸ later)
      simp only [List.length_cons]
      omega

/-- The text without its matches, found from the left and not overlapping. -/
def eraseAll (pattern : Pattern) (cs : List Char) : List Char :=
  match _found : pattern.find? cs with
  | none => cs
  | some (before, after) => before ++ pattern.eraseAll after
termination_by cs.length
decreasing_by exact find?_length_lt _found

/-- The pieces between the matches, found from the left and not overlapping. -/
def split (pattern : Pattern) (cs : List Char) : List (List Char) :=
  match _found : pattern.find? cs with
  | none => [cs]
  | some (before, after) => before :: pattern.split after
termination_by cs.length
decreasing_by exact find?_length_lt _found

end Pattern

end TemplateCompiler.Text
