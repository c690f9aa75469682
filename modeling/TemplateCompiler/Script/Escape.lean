namespace TemplateCompiler.Script

def escapeLiteralChar (c : Char) : List Char :=
  if c = '\\' then ['\\', '\\']
  else if c = '\'' then ['\\', '\'']
  else if c = '\n' then ['\\', 'n']
  else if c = '\r' then ['\\', 'r']
  else if c = '\u2028' then ['\\', 'u', '2', '0', '2', '8']
  else if c = '\u2029' then ['\\', 'u', '2', '0', '2', '9']
  else [c]

/-- Text as it stands between the single quotes of a script string that denotes it. -/
def escapeLiteral (text : String) : String :=
  String.ofList (text.toList.flatMap escapeLiteralChar)

/-- The forms in which the characters of literal text are written. -/
inductive LiteralForm : Char → List Char → Prop
  | backslash : LiteralForm '\\' ['\\', '\\']
  | quote : LiteralForm '\'' ['\\', '\'']
  | lineFeed : LiteralForm '\n' ['\\', 'n']
  | carriageReturn : LiteralForm '\r' ['\\', 'r']
  | lineSeparator : LiteralForm '\u2028' ['\\', 'u', '2', '0', '2', '8']
  | paragraphSeparator : LiteralForm '\u2029' ['\\', 'u', '2', '0', '2', '9']
  | plain {c : Char} : c ∉ ['\\', '\'', '\n', '\r', '\u2028', '\u2029'] → LiteralForm c [c]

theorem escapeLiteralChar_form (c : Char) : LiteralForm c (escapeLiteralChar c) := by
  by_cases special : c ∈ ['\\', '\'', '\n', '\r', '\u2028', '\u2029']
  · simp only [List.mem_cons, List.not_mem_nil, or_false] at special
    rcases special with rfl | rfl | rfl | rfl | rfl | rfl
    · exact .backslash
    · exact .quote
    · exact .lineFeed
    · exact .carriageReturn
    · exact .lineSeparator
    · exact .paragraphSeparator
  · have kept : escapeLiteralChar c = [c] := by
      simp only [List.mem_cons, List.not_mem_nil, or_false, not_or] at special
      obtain ⟨backslash, quote, lineFeed, carriageReturn, lineSeparator, paragraphSeparator⟩ := special
      rw [escapeLiteralChar, if_neg backslash, if_neg quote, if_neg lineFeed, if_neg carriageReturn,
        if_neg lineSeparator, if_neg paragraphSeparator]
    rw [kept]
    exact .plain special

def escapeBareChar (c : Char) : List Char :=
  if c = '\'' then ['\\', '\'']
  else if c = '\n' then ['\\', 'n']
  else if c = '\r' then ['\\', 'r']
  else [c]

/-- A backslash and what follows it are kept as a pair. Outside of pairs only what would end the
string is escaped, and a backslash with nothing after it becomes a pair of its own. -/
def escapeFragmentChars : List Char → List Char
  | [] => []
  | ['\\'] => ['\\', '\\']
  | '\\' :: c :: cs => '\\' :: c :: escapeFragmentChars cs
  | c :: cs => escapeBareChar c ++ escapeFragmentChars cs

/-- Text that already holds script escapes as it stands between the single quotes. -/
def escapeFragment (text : String) : String :=
  String.ofList (escapeFragmentChars text.toList)

end TemplateCompiler.Script
