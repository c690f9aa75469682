import TemplateCompiler.Toml.Scalar
import TemplateCompiler.Toml.Text

namespace TemplateCompiler.Toml

def skipBlanks (cs : List Char) : List Char :=
  cs.dropWhile isBlank

def isBareKeyChar (c : Char) : Bool :=
  c.isAlphanum || c == '_' || c == '-'

/-- Reads one part of a key. -/
def readName? (cs : List Char) : Option (String × List Char) :=
  match cs with
  | '"' :: cs => readBasic? .none [] cs
  | '\'' :: cs => readLiteral? [] cs
  | cs =>
    let name := cs.takeWhile isBareKeyChar
    if name.isEmpty then none else some (String.ofList name, cs.dropWhile isBareKeyChar)

/-- Reads items as long as there is a next one, which `next?` finds with the text that follows it;
an item that takes no text ends the reading. -/
def readMany {α : Type} (next? : List Char → Option (α × List Char)) (cs : List Char) :
    List α × List Char :=
  match next? cs with
  | none => ([], cs)
  | some (item, rest) =>
    if rest.length < cs.length then
      let (items, rest) := readMany next? rest
      (item :: items, rest)
    else ([item], rest)
termination_by cs.length

/-- Reads a further part of a key, after a point. -/
def readNextName? (cs : List Char) : Option (String × List Char) :=
  match skipBlanks cs with
  | '.' :: cs => readName? (skipBlanks cs)
  | _ => none

/-- Reads a key, in parts with points between them. -/
def readKey? (cs : List Char) : Option (Key × List Char) := do
  let (first, rest) ← readName? cs
  let (others, rest) := readMany readNextName? rest
  match others.getLast? with
  | none => pure (⟨[], first⟩, skipBlanks rest)
  | some name => pure (⟨first :: others.dropLast, name⟩, skipBlanks rest)

/-- Reads a key, an equals sign and a value. -/
def readPair? (readValue? : List Char → Option (Item × List Char)) (cs : List Char) :
    Option ((Key × Item) × List Char) := do
  let (key, rest) ← readKey? cs
  let rest ← expect? '=' rest
  let (value, rest) ← readValue? (skipBlanks rest)
  pure ((key, value), rest)

/-- Reads an element of a list and the filler around it; the comma after it is left. -/
def readElement? {α : Type} (element? : List Char → Option (α × List Char)) (cs : List Char) :
    Option (α × List Char) := do
  let cs ← skipFiller false cs
  let (element, rest) ← element? cs
  let rest ← skipFiller false rest
  pure (element, rest)

/-- Reads a list after its opening bracket: elements with commas between them, and maybe one more
comma after the last. -/
def readList? {α : Type} (close : Char) (element? : List Char → Option (α × List Char))
    (cs : List Char) : Option (List α × List Char) := do
  let cs ← skipFiller false cs
  match expect? close cs with
  | some rest => pure ([], rest)
  | none =>
    let (first, rest) ← readElement? element? cs
    let (others, rest) := readMany
      (fun cs => do readElement? element? (← expect? ',' cs)) rest
    match expect? close rest with
    | some rest => pure (first :: others, rest)
    | none =>
      let rest ← expect? ',' rest
      let rest ← skipFiller false rest
      let rest ← expect? close rest
      pure (first :: others, rest)

/-- How deep arrays and tables in braces may nest. -/
def maxDepth : Nat := 80

/-- Reads a value in which arrays and tables in braces nest at most `depth` deep. -/
def readValue? (depth : Nat) (cs : List Char) : Option (Item × List Char) :=
  match depth, cs with
  | 0, '[' :: _ => none
  | 0, '\x7b' :: _ => none
  | depth + 1, '[' :: cs =>
    (readList? ']' (readValue? depth) cs).map fun (items, rest) => (.array items, rest)
  | depth + 1, '\x7b' :: cs => do
    let (added, rest) ← readList? '\x7d' (readPair? (readValue? depth)) cs
    let entries ← Entries.insertAll? [] added
    pure (.table .inline entries, rest)
  | _, cs =>
    match cs with
    | '"' :: _ => (readString? cs).map fun (text, rest) => (.string text, rest)
    | '\'' :: _ => (readString? cs).map fun (text, rest) => (.string text, rest)
    | cs => readScalar? cs

/-- One line of a document, or several if a value takes more. -/
inductive Statement where
  | entry (key : Key) (item : Item)
  | header (key : Key)
  /-- A header in double brackets. -/
  | arrayHeader (key : Key)

/-- Reads a statement without the end of its line. -/
def readStatement? : List Char → Option (Statement × List Char)
  | '[' :: '[' :: cs => do
    let (key, rest) ← readKey? (skipBlanks cs)
    let rest ← expect? ']' rest
    let rest ← expect? ']' rest
    pure (.arrayHeader key, rest)
  | '[' :: cs => do
    let (key, rest) ← readKey? (skipBlanks cs)
    let rest ← expect? ']' rest
    pure (.header key, rest)
  | cs => do
    let ((key, item), rest) ← readPair? (readValue? maxDepth) cs
    pure (.entry key item, rest)

/-- Reads a statement with the filler before it and the end of its line. -/
def readStatementLine? (cs : List Char) : Option (Statement × List Char) := do
  let cs ← skipFiller false cs
  let (statement, rest) ← readStatement? cs
  let rest ← skipLineEnd false rest
  pure (statement, rest)

/-- The statements of a document. A byte order mark may stand in front of it. -/
def readStatements? (cs : List Char) : Option (List Statement) :=
  let cs := if cs.head? = some '\ufeff' then cs.drop 1 else cs
  let (statements, rest) := readMany readStatementLine? cs
  if skipFiller false rest = some [] then some statements else none

/-- The leading entries of a document, and the rest of it from the first header on. -/
def splitEntries : List Statement → List (Key × Item) × List Statement
  | .entry key item :: statements =>
    let (entries, rest) := splitEntries statements
    ((key, item) :: entries, rest)
  | statements => ([], statements)

theorem splitEntries_length_le (statements : List Statement) :
    (splitEntries statements).2.length ≤ statements.length := by
  fun_induction splitEntries statements with
  | case1 _ _ _ _ _ equal ih =>
    simp only [equal, List.length_cons] at ih ⊢
    omega
  | case2 => simp

/-- Adds the tables of a document, each with the entries up to the next header. -/
def addTables? (top : Entries) : List Statement → Option Entries
  | [] => some top
  | .entry _ _ :: _ => none
  | .header key :: statements => do
    let top ← top.insertTable? key (splitEntries statements).1
    addTables? top (splitEntries statements).2
  | .arrayHeader key :: statements => do
    let top ← top.appendTable? key (splitEntries statements).1
    addTables? top (splitEntries statements).2
termination_by statements => statements.length
decreasing_by all_goals exact Nat.lt_succ_of_le (splitEntries_length_le _)

/-- The top table of a document. -/
def ofText? (text : String) : Option Entries := do
  let statements ← readStatements? text.toList
  let top ← Entries.insertAll? [] (splitEntries statements).1
  addTables? top (splitEntries statements).2

end TemplateCompiler.Toml
