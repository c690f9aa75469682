import TemplateCompiler.Text.WhiteSpace

namespace TemplateCompiler.Script

/-- Words that a script gives a meaning of its own. -/
def reservedWords : List String :=
  ["break", "case", "catch", "class", "const", "continue", "debugger", "default", "delete", "do",
   "else", "export", "extends", "finally", "for", "function", "if", "import", "in", "instanceof",
   "new", "return", "super", "switch", "this", "throw", "try", "typeof", "var", "void", "while",
   "with", "yield", "enum", "implements", "interface", "let", "package", "private", "protected",
   "public", "static", "await", "undefined", "null", "true", "false", "NaN", "Infinity", "eval",
   "arguments"]

/-- Reserved words that stand for a value. -/
def valueWords : List String :=
  ["this", "arguments", "undefined", "null", "true", "false", "NaN", "Infinity", "eval"]

def isReserved (name : String) : Bool :=
  reservedWords.contains name

def isValueWord (name : String) : Bool :=
  valueWords.contains name

/-- The characters of a variable's name in a template. -/
def isWordChar (c : Char) : Bool :=
  c.isAlphanum || c == '_'

/-- The variable that an expression reads from: its leading run of word characters. -/
def rootName (expression : String) : String :=
  String.ofList (expression.toList.takeWhile isWordChar)

/-- Whether a name can be declared as a variable. -/
def isHoistable (name : String) : Bool :=
  !name.isEmpty && !name.toList.head?.any Char.isDigit && !isReserved name

/-- The variable to declare for an expression, if it reads from one. -/
def hoistableRoot? (expression : String) : Option String :=
  let root := rootName (Text.trimStart expression)
  if isHoistable root then some root else none

/-- The names that a program keeps for itself. A template variable holds word characters only, so
it is never one of those with a dollar sign. -/
def outputName : String := "$out"

def dataName : String := "$data"

def showName : String := "$show"

def textName : String := "$text"

def loopBodyName : String := "$body"

def loopStateName : String := "foreach"

end TemplateCompiler.Script
