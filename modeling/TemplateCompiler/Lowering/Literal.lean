import TemplateCompiler.Script.Escape
import TemplateCompiler.Script.Name
import TemplateCompiler.Template.Kind

namespace TemplateCompiler.Lowering

/-- The statement that appends literal text to the output; none for an empty text. -/
def appendText (text : String) : String :=
  if text.isEmpty then ""
  else Script.outputName ++ "+='" ++ Script.escapeLiteral text ++ "';"

/-- The code of a string fragment between two neighbours. Fragments side by side share their quotes,
and a plus sign joins them to any other neighbour. -/
def fragmentCode (before after : Option Kind) (text : String) : String :=
  let opening :=
    match before with
    | none => "'"
    | some .fragment => ""
    | some _ => "+'"
  let closing :=
    match after with
    | none => "'"
    | some .fragment => ""
    | some _ => "'+"
  opening ++ Script.escapeFragment text ++ closing

/-- What stands before an interpolated part of a string. A leading one is appended to an empty
string, so that the plus sign joins texts. -/
def joinPart (before : Option Kind) : String :=
  match before with
  | none => "''+"
  | some .fragment => ""
  | some _ => "+"

end TemplateCompiler.Lowering
