import TemplateCompiler.Text.Pattern
import TemplateCompiler.Text.WhiteSpace

namespace TemplateCompiler.Lowering

open Text (Pattern PatternPart isWhiteSpace)

/-- The characters that can end the target of an assignment. -/
def endsTarget (c : Char) : Bool :=
  c.isAlphanum || c == '_' || isWhiteSpace c || c == ']'

/-- The characters that show that an assignment has a value. -/
def showsValue (c : Char) : Bool :=
  c.isAlphanum || c == '_' || isWhiteSpace c || c == '[' || c == '\x7b'

/-- Everything from a quote to the last quote of the line. -/
def quotedText : Pattern :=
  ⟨(· == '\''), [.many (· != '\n'), .one (· == '\'')]⟩

/-- Everything from an opening parenthesis to the last closing one of the line. -/
def parenthesised : Pattern :=
  ⟨(· == '('), [.many (· != '\n'), .one (· == ')')]⟩

/-- A target, an equals sign and a value before the next equals sign. -/
def assignment : Pattern :=
  ⟨endsTarget, [.one (· == '='), .many (· != '='), .one showsValue]⟩

/-- A target and an equals sign at the end of the text. -/
def trailingAssignment : Pattern :=
  ⟨endsTarget, [.one (· == '='), .finish]⟩

/-- The word `in` between white space. -/
def loopSeparator : Pattern :=
  ⟨isWhiteSpace, [.many isWhiteSpace, .one (· == 'i'), .one (· == 'n'), .one isWhiteSpace,
    .many isWhiteSpace]⟩

/-- Whether an expression assigns, as far as its text tells. An equals sign inside a quoted string
does not count. -/
def assigns (expression : String) : Bool :=
  assignment.occursIn (quotedText.eraseAll expression.toList)

/-- Whether an expression is an assignment, as far as its text tells. What stands in quotes or in
parentheses does not count, and the value may be missing. -/
def isAssignment (expression : String) : Bool :=
  let outer := parenthesised.eraseAll (quotedText.eraseAll expression.toList)
  assignment.occursIn outer || trailingAssignment.occursIn outer

/-- The element and the collection of a loop's expression. -/
def loopParts? (expression : String) : Option (String × String) :=
  match loopSeparator.split expression.toList with
  | [key, collection] =>
    if key.isEmpty || collection.isEmpty then none
    else some (String.ofList key, String.ofList collection)
  | _ => none

end TemplateCompiler.Lowering
