import TemplateCompiler.Json.Value
import TemplateCompiler.Template.Node

namespace TemplateCompiler

/-- All that a parser hands over for one template. The two tables are for the host's own use. -/
structure Document where
  nodes : List Node
  symbols : Json.Value := .null
  words : Json.Value := .null

/-- Whether the document holds nothing but its nodes. -/
def Document.tablesAreEmpty (document : Document) : Bool :=
  document.symbols.isNull && document.words.isNull

end TemplateCompiler
