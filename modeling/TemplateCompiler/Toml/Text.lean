import TemplateCompiler.Text.Hexadecimal

namespace TemplateCompiler.Toml

def isBlank (c : Char) : Bool :=
  c == ' ' || c == '\t'

/-- Control characters, which a document may hold only as tabs and line ends. -/
def isControl (c : Char) : Bool :=
  (c < ' ' && c != '\t') || c == '\x7f'

/-- The text after blanks, line ends and comments, unless a comment holds a control character. -/
def skipFiller (inComment : Bool) : List Char → Option (List Char)
  | [] => some []
  | '\n' :: cs => skipFiller false cs
  | '\r' :: '\n' :: cs => skipFiller false cs
  | c :: cs =>
    if inComment then if isControl c then none else skipFiller true cs
    else if isBlank c then skipFiller false cs
    else if c = '#' then skipFiller true cs
    else some (c :: cs)

/-- The text after the end of the line, before which only blanks and a comment may stand. -/
def skipLineEnd (inComment : Bool) : List Char → Option (List Char)
  | [] => some []
  | '\n' :: cs => some cs
  | '\r' :: '\n' :: cs => some cs
  | c :: cs =>
    if inComment then if isControl c then none else skipLineEnd true cs
    else if isBlank c then skipLineEnd false cs
    else if c = '#' then skipLineEnd true cs
    else none

/-- Where a reader of a string is within an escape. -/
inductive Escape where
  | none
  /-- After the backslash. -/
  | begun
  /-- Inside a code of which `left + 1` digits are missing. -/
  | code (left value : Nat)
  /-- After a backslash at the end of a line; `crossed` once the line end has been passed. -/
  | lineEnd (crossed : Bool)
  deriving DecidableEq, Repr

/-- Reads one character of an escape; `text` holds the string so far, the last character first. -/
def stepEscape? (c : Char) (text : List Char) : Option (Escape × List Char) :=
  match c with
  | 'b' => some (.none, '\x08' :: text)
  | 't' => some (.none, '\t' :: text)
  | 'n' => some (.none, '\n' :: text)
  | 'f' => some (.none, '\x0c' :: text)
  | 'r' => some (.none, '\r' :: text)
  | 'e' => some (.none, '\x1b' :: text)
  | '"' => some (.none, '"' :: text)
  | '\\' => some (.none, '\\' :: text)
  | 'x' => some (.code 1 0, text)
  | 'u' => some (.code 3 0, text)
  | 'U' => some (.code 7 0, text)
  | _ => none

/-- Reads one digit of a code. Only codes of characters are allowed. -/
def stepCode? (left value : Nat) (c : Char) (text : List Char) : Option (Escape × List Char) :=
  match Text.hexValue? c with
  | none => none
  | some digit =>
    let value := value * 16 + digit
    match left with
    | left + 1 => some (.code left value, text)
    | 0 => if value.isValidChar then some (.none, Char.ofNat value :: text) else none

/-- Reads a string in double quotes after its opening quote. -/
def readBasic? (escape : Escape) (text : List Char) : List Char → Option (String × List Char)
  | [] => none
  | c :: cs =>
    match escape with
    | .none =>
      if c = '"' then some (String.ofList text.reverse, cs)
      else if c = '\\' then readBasic? .begun text cs
      else if isControl c then none
      else readBasic? .none (c :: text) cs
    | .begun =>
      match stepEscape? c text with
      | some (escape, text) => readBasic? escape text cs
      | none => none
    | .code left value =>
      match stepCode? left value c text with
      | some (escape, text) => readBasic? escape text cs
      | none => none
    | .lineEnd _ => none

/-- Reads a string in single quotes, which has no escapes, after its opening quote. -/
def readLiteral? (text : List Char) : List Char → Option (String × List Char)
  | [] => none
  | c :: cs =>
    if c = '\'' then some (String.ofList text.reverse, cs)
    else if isControl c then none
    else readLiteral? (c :: text) cs

/-- A line end right after the opening quotes does not belong to the string. -/
def dropFirstLineEnd : List Char → List Char
  | '\n' :: cs => cs
  | '\r' :: '\n' :: cs => cs
  | cs => cs

/-- A carriage return is allowed before a line feed only. -/
def isMultilineChar (c : Char) (next : Option Char) : Bool :=
  !isControl c || c == '\n' || (c == '\r' && next == some '\n')

/-- Reads a string in three quotes after its opening quotes. Escapes are read if `escapes`. The
string ends with three quotes in a row, and up to two more quotes before them belong to it;
`quotes` counts those just read. -/
def readMultiline? (quote : Char) (escapes : Bool) (escape : Escape) (quotes : Nat)
    (text : List Char) : List Char → Option (String × List Char)
  | [] => if 3 ≤ quotes then some (String.ofList (text.drop 3).reverse, []) else none
  | c :: cs =>
    if c = quote && (escape = .none || escape = .lineEnd true) then
      if quotes = 5 then none
      else readMultiline? quote escapes .none (quotes + 1) (c :: text) cs
    else if 3 ≤ quotes then some (String.ofList (text.drop 3).reverse, c :: cs)
    else
      match escape with
      | .none =>
        if c = '\\' && escapes then readMultiline? quote escapes .begun 0 text cs
        else if isMultilineChar c cs.head? then readMultiline? quote escapes .none 0 (c :: text) cs
        else none
      | .begun =>
        if isBlank c then readMultiline? quote escapes (.lineEnd false) 0 text cs
        else if c = '\n' then readMultiline? quote escapes (.lineEnd true) 0 text cs
        else if c = '\r' && cs.head? = some '\n' then
          readMultiline? quote escapes (.lineEnd false) 0 text cs
        else
          match stepEscape? c text with
          | some (escape, text) => readMultiline? quote escapes escape 0 text cs
          | none => none
      | .code left value =>
        match stepCode? left value c text with
        | some (escape, text) => readMultiline? quote escapes escape 0 text cs
        | none => none
      | .lineEnd crossed =>
        if isBlank c then readMultiline? quote escapes (.lineEnd crossed) 0 text cs
        else if c = '\n' then readMultiline? quote escapes (.lineEnd true) 0 text cs
        else if c = '\r' && cs.head? = some '\n' then
          readMultiline? quote escapes (.lineEnd crossed) 0 text cs
        else if !crossed then none
        else if c = '\\' then readMultiline? quote escapes .begun 0 text cs
        else if isMultilineChar c cs.head? then readMultiline? quote escapes .none 0 (c :: text) cs
        else none

/-- Reads a string of any kind. -/
def readString? : List Char → Option (String × List Char)
  | '"' :: '"' :: '"' :: cs => readMultiline? '"' true .none 0 [] (dropFirstLineEnd cs)
  | '\'' :: '\'' :: '\'' :: cs => readMultiline? '\'' false .none 0 [] (dropFirstLineEnd cs)
  | '"' :: cs => readBasic? .none [] cs
  | '\'' :: cs => readLiteral? [] cs
  | _ => none

end TemplateCompiler.Toml
