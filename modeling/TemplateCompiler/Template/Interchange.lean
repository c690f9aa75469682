import TemplateCompiler.Diagnostic
import TemplateCompiler.Json.Printer
import TemplateCompiler.Mismatch
import TemplateCompiler.Template.Document

namespace TemplateCompiler

/-- Why a text does not hold a template. -/
inductive ReadError where
  /-- The text is not JSON, or not JSON within the limits of the format. -/
  | notJson
  | mismatch (difference : Mismatch)

/-- What a JSON reader says of its own about a text that is refused. It may tell a place in the text. -/
structure Json.Wording where
  /-- Of a text that is not JSON. -/
  malformed : String
  /-- After the description of a text that is JSON but has another form. -/
  after : String

/-- The shortest words, which tell no place and of a text that is not JSON only that it is not. -/
def Json.Wording.brief : Wording :=
  ⟨"<json>", ""⟩

namespace ReadError

def message (words : Json.Wording) : ReadError → String
  | notJson => words.malformed
  | mismatch m => m.describe Json.floatLayout ++ words.after

def report (words : Json.Wording) (error : ReadError) : Diagnostic :=
  { stage := .tree
    message := "Parser output is not a valid template tree: " ++ error.message words }

/-- The report in the shortest words. -/
def diagnostic (error : ReadError) : Diagnostic :=
  error.report .brief

end ReadError

namespace Interchange

open Json (Tree Piece Value)

abbrev Reading := Except ReadError

def orNotJson {α : Type} : Option α → Reading α
  | some value => .ok value
  | none => .error .notJson

/-- How deep the arrays and objects of a text may nest, the outermost included. -/
def maxDepth : Nat := 127

/-- What stands in the place of something else. A container is known by its first character. -/
def found : Tree → Reading Found
  | .null => .ok .null
  | .bool value => .ok (.bool value)
  | .number numeral => do
    match ← orNotJson numeral.toNumber? with
    | .integer value => .ok (.integer value)
    | .float value => .ok (.float value)
  | .string pieces => do
    let text ← orNotJson (Piece.toString? pieces)
    .ok (.string text)
  | .array _ _ => .ok .sequence
  | .object _ _ => .ok .map
  | .broken => .error .notJson

def wrongType {α : Type} (tree : Tree) (wanted : String) : Reading α := do
  let found ← found tree
  .error (.mismatch (.wrongType found wanted))

def readText : Tree → Reading String
  | .string pieces => orNotJson (Piece.toString? pieces)
  | tree => wrongType tree "a string"

/-- Reads an integer from 0 to below `limit`. -/
def readNatural (limit : Nat) (wanted : String) : Tree → Reading Nat
  | .number numeral => do
    match ← orNotJson numeral.toNumber? with
    | .integer value =>
      if 0 ≤ value && value < limit then .ok value.toNat
      else .error (.mismatch (.outOfRange value wanted))
    | .float value => .error (.mismatch (.wrongType (.float value) wanted))
  | tree => wrongType tree wanted

def readKind (tree : Tree) : Reading Kind := do
  let tag ← readNatural 256 "u8" tree
  match Kind.ofTag? tag with
  | some kind => .ok kind
  | none => .error (.mismatch (.unknownKind tag))

def readPosition (tree : Tree) : Reading Nat :=
  readNatural Json.wordCount "usize" tree

/-- Passes over a value whose meaning does not matter. -/
def skip (tree : Tree) : Reading Unit :=
  if tree.isWhole then .ok () else .error .notJson

/-- Allows a field only once. -/
def onlyOnce {α : Type} (name : String) : Option α → Reading Unit
  | none => .ok ()
  | some _ => .error (.mismatch (.duplicateField name))

/-- The fields of a node that have been read. -/
structure NodeFields where
  kind : Option Kind := none
  text : Option String := none
  children : Option (Option (List Node)) := none
  position : Option Nat := none

/-- The fields of a node, in the order of its short form. -/
def nodeFieldNames : List String := ["type", "val", "sublayer", "begin"]

def NodeFields.toNode? (fields : NodeFields) : Option Node :=
  fields.kind.map fun kind =>
    ⟨kind, fields.text.getD "", fields.children.getD none, fields.position.getD 0⟩

mutual

/-- Reads a node: an object, or the short form, an array of its fields. -/
def readNode (depth : Nat) : Tree → Reading Node
  | .object members closed =>
    match depth with
    | 0 => .error .notJson
    | depth + 1 => do
      let fields ← readMembers depth {} members
      if closed then
        match fields.toNode? with
        | some node => .ok node
        | none => .error (.mismatch (.missingField "type"))
      else .error .notJson
  | .array items closed =>
    match depth with
    | 0 => .error .notJson
    | depth + 1 => do
      let fields ← readItems depth {} nodeFieldNames items
      if closed then
        match fields.toNode? with
        | some node => .ok node
        | none => .error (.mismatch (.tooShort "struct TemplateNode with 4 elements"))
      else .error .notJson
  | tree => wrongType tree "struct TemplateNode"

/-- Reads one field. A field that has been read before is refused before its value is looked at. -/
def readField (depth : Nat) (fields : NodeFields) (name : String) (tree : Tree) :
    Reading NodeFields :=
  if name = "type" then do
    onlyOnce name fields.kind
    let kind ← readKind tree
    .ok { fields with kind := some kind }
  else if name = "val" then do
    onlyOnce name fields.text
    let text ← readText tree
    .ok { fields with text := some text }
  else if name = "sublayer" then do
    onlyOnce name fields.children
    let children ←
      match tree with
      | .null => .ok none
      | .array items closed =>
        match depth with
        | 0 => .error .notJson
        | depth + 1 => do
          let nodes ← readNodes depth items
          if closed then .ok (some nodes) else .error .notJson
      | tree => wrongType tree "a sequence"
    .ok { fields with children := some children }
  else if name = "begin" then do
    onlyOnce name fields.position
    let position ← readPosition tree
    .ok { fields with position := some position }
  else do
    skip tree
    .ok fields

def readMembers (depth : Nat) (fields : NodeFields) :
    List (List Piece × Tree) → Reading NodeFields
  | [] => .ok fields
  | (pieces, tree) :: members => do
    let name ← orNotJson (Piece.toString? pieces)
    let fields ← readField depth fields name tree
    readMembers depth fields members

/-- Reads the items of the short form under the given names; more items than names are refused. -/
def readItems (depth : Nat) (fields : NodeFields) (names : List String) :
    List Tree → Reading NodeFields
  | [] => .ok fields
  | tree :: items =>
    match names with
    | [] => .error .notJson
    | name :: names => do
      let fields ← readField depth fields name tree
      readItems depth fields names items

def readNodes (depth : Nat) : List Tree → Reading (List Node)
  | [] => .ok []
  | tree :: trees => do
    let node ← readNode depth tree
    let nodes ← readNodes depth trees
    .ok (node :: nodes)

end

/-- The fields of a document that have been read. -/
structure DocumentFields where
  nodes : Option (List Node) := none
  symbols : Option Value := none
  words : Option Value := none

/-- The fields of a document, in the order of its short form. -/
def documentFieldNames : List String := ["parseStack", "symbols", "words"]

def DocumentFields.toDocument? (fields : DocumentFields) : Option Document :=
  fields.nodes.map fun nodes => ⟨nodes, fields.symbols.getD .null, fields.words.getD .null⟩

def readNodeList (depth : Nat) : Tree → Reading (List Node)
  | .array items closed =>
    match depth with
    | 0 => .error .notJson
    | depth + 1 => do
      let nodes ← readNodes depth items
      if closed then .ok nodes else .error .notJson
  | tree => wrongType tree "a sequence"

def readDocumentField (depth : Nat) (fields : DocumentFields) (name : String) (tree : Tree) :
    Reading DocumentFields :=
  if name = "parseStack" then do
    onlyOnce name fields.nodes
    let nodes ← readNodeList depth tree
    .ok { fields with nodes := some nodes }
  else if name = "symbols" then do
    onlyOnce name fields.symbols
    let symbols ← orNotJson (tree.toValue? depth)
    .ok { fields with symbols := some symbols }
  else if name = "words" then do
    onlyOnce name fields.words
    let words ← orNotJson (tree.toValue? depth)
    .ok { fields with words := some words }
  else do
    skip tree
    .ok fields

def readDocumentMembers (depth : Nat) (fields : DocumentFields) :
    List (List Piece × Tree) → Reading DocumentFields
  | [] => .ok fields
  | (pieces, tree) :: members => do
    let name ← orNotJson (Piece.toString? pieces)
    let fields ← readDocumentField depth fields name tree
    readDocumentMembers depth fields members

def readDocumentItems (depth : Nat) (fields : DocumentFields) :
    List String → List Tree → Reading DocumentFields
  | _, [] => .ok fields
  | [], _ :: _ => .error .notJson
  | name :: names, tree :: items => do
    let fields ← readDocumentField depth fields name tree
    readDocumentItems depth fields names items

/-- Reads a document: an object, or the short form, an array of its fields. -/
def readDocument (depth : Nat) : Tree → Reading Document
  | .object members closed =>
    match depth with
    | 0 => .error .notJson
    | depth + 1 => do
      let fields ← readDocumentMembers depth {} members
      if closed then
        match fields.toDocument? with
        | some document => .ok document
        | none => .error (.mismatch (.missingField "parseStack"))
      else .error .notJson
  | .array items closed =>
    match depth with
    | 0 => .error .notJson
    | depth + 1 => do
      let fields ← readDocumentItems depth {} documentFieldNames items
      if closed then
        match fields.toDocument? with
        | some document => .ok document
        | none => .error (.mismatch (.tooShort "struct ParsedTemplate with 3 elements"))
      else .error .notJson
  | tree => wrongType tree "struct ParsedTemplate"

end Interchange

/-- Reads a template from its interchange text. Of several problems the first in the text counts,
and a text that ends wrongly is refused last. -/
def Document.ofJson (text : String) : Except ReadError Document := do
  let (tree, complete) := Json.Tree.ofText text
  let document ← Interchange.readDocument Interchange.maxDepth tree
  if complete then .ok document else .error .notJson

/-- A template or the report on its text, where `words` are what the JSON reader says of its own about
each text. -/
def Document.read (words : String → Json.Wording) (text : String) : Except Diagnostic Document :=
  (ofJson text).mapError (ReadError.report (words text))

end TemplateCompiler
