namespace TemplateCompiler

/-- Tells the line, counted from 1, on which a position of the template source lies. -/
abbrev LineLookup := Nat → Nat

/-- Where the lines of a source text begin, as byte offsets in ascending order. -/
structure SourceLines where
  starts : Array Nat

namespace SourceLines

/-- The offsets just after each line feed, for bytes that begin at `offset`. -/
def startsAfterFeeds (offset : Nat) : List UInt8 → List Nat
  | [] => []
  | byte :: bytes =>
    if byte = 10 then (offset + 1) :: startsAfterFeeds (offset + 1) bytes
    else startsAfterFeeds (offset + 1) bytes

/-- The lines of a text in its UTF-8 form. Only a line feed ends a line. -/
def ofText (source : String) : SourceLines :=
  ⟨(0 :: startsAfterFeeds 0 source.toUTF8.toList).toArray⟩

/-- How many of the starts are at most `offset`, found by halving the stretch from `low` to `high`
that is still undecided. -/
def bisect (starts : Array Nat) (offset low high : Nat) : Nat :=
  if low < high then
    let middle := (low + high) / 2
    if starts[middle]?.any (· ≤ offset) then bisect starts offset (middle + 1) high
    else bisect starts offset low middle
  else low
termination_by high - low
decreasing_by all_goals omega

/-- The line on which a byte offset lies; an offset past the end lies on the last line. -/
def lineOf (lines : SourceLines) : LineLookup :=
  fun offset => bisect lines.starts offset 0 lines.starts.size

end SourceLines

end TemplateCompiler
