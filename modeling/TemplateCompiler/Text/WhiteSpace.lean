import TemplateCompiler.Text.Ranges

namespace TemplateCompiler.Text

/-- The code points with the Unicode property White_Space. -/
def whiteSpaceRanges : Ranges :=
  [(0x09, 0x0D), (0x20, 0x20), (0x85, 0x85), (0xA0, 0xA0), (0x1680, 0x1680), (0x2000, 0x200A),
   (0x2028, 0x2029), (0x202F, 0x202F), (0x205F, 0x205F), (0x3000, 0x3000)]

def isWhiteSpace (c : Char) : Bool :=
  whiteSpaceRanges.contains c

def dropLeadingSpace (cs : List Char) : List Char :=
  cs.dropWhile isWhiteSpace

def dropTrailingSpace (cs : List Char) : List Char :=
  (cs.reverse.dropWhile isWhiteSpace).reverse

def trimStart (s : String) : String :=
  String.ofList (dropLeadingSpace s.toList)

/-- The text without the white space at either end. -/
def trim (s : String) : String :=
  String.ofList (dropTrailingSpace (dropLeadingSpace s.toList))

/-- Whether a text is white space throughout. -/
def isBlank (s : String) : Bool :=
  s.toList.all isWhiteSpace

theorem dropLeadingSpace_cons {c : Char} {cs : List Char} :
    dropLeadingSpace (c :: cs) = if isWhiteSpace c then dropLeadingSpace cs else c :: cs := by
  simp only [dropLeadingSpace, List.dropWhile_cons]

theorem all_dropLeadingSpace (cs : List Char) :
    (dropLeadingSpace cs).all isWhiteSpace = cs.all isWhiteSpace := by
  induction cs with
  | nil => rfl
  | cons c cs ih =>
    rw [dropLeadingSpace_cons]
    split
    · rename_i space
      rw [ih, List.all_cons, space, Bool.true_and]
    · rfl

theorem dropLeadingSpace_eq_nil_iff {cs : List Char} :
    dropLeadingSpace cs = [] ↔ cs.all isWhiteSpace = true := by
  induction cs with
  | nil => exact ⟨fun _ => rfl, fun _ => rfl⟩
  | cons c cs ih =>
    rw [dropLeadingSpace_cons, List.all_cons]
    by_cases space : isWhiteSpace c = true
    · rw [if_pos space, space, Bool.true_and]
      exact ih
    · rw [if_neg space]
      constructor
      · intro empty
        cases empty
      · intro all
        exact absurd (Bool.and_eq_true_iff.1 all).1 space

theorem dropTrailingSpace_eq_nil_iff {cs : List Char} :
    dropTrailingSpace cs = [] ↔ cs.all isWhiteSpace = true := by
  have reversed : dropLeadingSpace cs.reverse = [] ↔ cs.reverse.all isWhiteSpace = true :=
    dropLeadingSpace_eq_nil_iff
  rw [List.all_reverse] at reversed
  exact List.reverse_eq_nil_iff.trans reversed

/-- A text is blank exactly if trimming leaves nothing of it. -/
theorem isBlank_iff_trim_eq_empty {s : String} : isBlank s = true ↔ trim s = "" := by
  have nothing : dropTrailingSpace (dropLeadingSpace s.toList) = [] ↔ isBlank s = true := by
    rw [dropTrailingSpace_eq_nil_iff, all_dropLeadingSpace, isBlank]
  rw [← nothing, trim]
  constructor
  · intro empty
    rw [empty]
  · intro empty
    have chars := congrArg String.toList empty
    rwa [String.toList_ofList] at chars

end TemplateCompiler.Text
