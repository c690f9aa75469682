import TemplateCompiler.Script.Name
import TemplateCompiler.Text.Alphabetic
import TemplateCompiler.Text.Numeric

namespace TemplateCompiler.Script

def isIdentifierChar (c : Char) : Bool :=
  c == '_' || c == '$' || Text.isAlphabetic c || Text.isNumeric c

def startsProperty (c : Char) : Bool :=
  c == '_' || c == '$' || c == '#' || Text.isAlphabetic c

def isQuote (c : Char) : Bool :=
  c == '\'' || c == '"' || c == '\x60'

/-- Whether a reader of script text is inside a string literal. -/
inductive StringState where
  | outside
  | inside (quote : Char)
  /-- Inside, just after a backslash. -/
  | escaped (quote : Char)
  deriving DecidableEq, Repr

/-- The next state inside a string literal; a backslash hides the character after it. -/
def StringState.insideStep (quote c : Char) : StringState :=
  if c = '\\' then .escaped quote else if c = quote then .outside else .inside quote

/-- What a reader of an expression remembers of the text before the current character. -/
structure Reader where
  strings : StringState := .outside
  /-- The character just before. -/
  last : Option Char := none
  /-- The last character outside of strings that is not white space; the opening quote stands for
  a whole string. -/
  previous : Option Char := none
  /-- The identifier or number that ends at `previous`. -/
  word : List Char := []
  /-- Whether the text belongs to the callee of a `new`. -/
  constructing : Bool := false
  deriving DecidableEq, Repr

namespace Reader

/-- Whether the word is a number. -/
def inNumber (reader : Reader) : Bool :=
  reader.word.head?.any Char.isDigit

/-- Whether the token just before produces a value whose members can be accessed. After an operator
such as `typeof` or `in` a bracket starts an operand. -/
def endsAccessTarget (reader : Reader) : Bool :=
  match reader.previous with
  | none => false
  | some c =>
    if c = ')' || c = ']' then true
    else if isIdentifierChar c then
      let word := String.ofList reader.word
      !reader.word.isEmpty && !reader.inNumber && (!isReserved word || isValueWord word)
    else false

/-- Whether a dot is one of several in a row. -/
def inDotRun (reader : Reader) (next : Option Char) : Bool :=
  next == some '.' || reader.last == some '.'

/-- Whether the character `c`, followed by `next`, starts an access: an index, a call or a member. -/
def startsAccess (reader : Reader) (c : Char) (next : Option Char) : Bool :=
  c == '[' || c == '(' ||
    (c == '.' && !reader.inDotRun next && !reader.inNumber && next.any startsProperty)

/-- Whether the character `c`, followed by `next`, is an access to be made optional. -/
def guards (reader : Reader) (c : Char) (next : Option Char) : Bool :=
  reader.strings == .outside && reader.startsAccess c next && !reader.constructing &&
    reader.endsAccessTarget

/-- Whether an identifier character goes on with the word before it. -/
def continuesWord (reader : Reader) : Bool :=
  reader.last.any fun last => isIdentifierChar last || last == '.' && reader.inNumber

/-- The reader after the character `c`, followed by `next`, outside of strings. -/
def advanceOutside (reader : Reader) (c : Char) (next : Option Char) : Reader :=
  if isQuote c then { reader with strings := .inside c, previous := some c, word := [] }
  else if c = '.' then
    let decimal := reader.inNumber && !reader.inDotRun next
    { reader with previous := some c, word := if decimal then reader.word else [] }
  else if c = '[' then { reader with previous := some c, word := [] }
  else if c = '(' then { reader with previous := some c, word := [], constructing := false }
  else if Text.isWhiteSpace c then reader
  else if isIdentifierChar c then
    if reader.continuesWord then { reader with previous := some c, word := reader.word ++ [c] }
    else
      { reader with
        previous := some c
        word := [c]
        constructing := reader.constructing || reader.word == ['n', 'e', 'w'] }
  else { reader with previous := some c, word := [], constructing := false }

/-- The reader after the character `c`, followed by `next`. -/
def advance (reader : Reader) (c : Char) (next : Option Char) : Reader :=
  match reader.strings with
  | .outside => { reader.advanceOutside c next with last := some c }
  | .inside quote => { reader with strings := .insideStep quote c, last := some c }
  | .escaped quote => { reader with strings := .inside quote, last := some c }

/-- Writes the text with a mark before each access to be made optional. -/
def navigate (reader : Reader) : List Char → List Char
  | [] => []
  | c :: cs =>
    let mark := if reader.guards c cs.head? then (if c = '.' then ['?'] else ['?', '.']) else []
    mark ++ c :: (reader.advance c cs.head?).navigate cs

end Reader

/-- Makes every member access, index access and call of an expression optional, so that a missing
link yields an undefined value instead of an exception. -/
def safeNavigation (expression : String) : String :=
  String.ofList (Reader.navigate {} expression.toList)

end TemplateCompiler.Script
