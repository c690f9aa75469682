import TemplateCompiler.Json.Token

namespace TemplateCompiler.Json

/-- The form of a JSON text, up to the first place at which it breaks the grammar. -/
inductive Tree where
  | null
  | bool (value : Bool)
  | number (numeral : Numeral)
  | string (pieces : List Piece)
  /-- An array that is not closed goes on with something that breaks the grammar. -/
  | array (items : List Tree) (closed : Bool)
  /-- An object that is not closed goes on with something that breaks the grammar. -/
  | object (members : List (List Piece × Tree)) (closed : Bool)
  /-- Something that breaks the grammar in the place of a value. -/
  | broken
  deriving Repr

namespace Tree

mutual

/-- Whether the grammar is kept throughout. -/
def isWhole : Tree → Bool
  | null | bool _ | number _ | string _ => true
  | array items closed => closed && itemsAreWhole items
  | object members closed => closed && membersAreWhole members
  | broken => false

def itemsAreWhole : List Tree → Bool
  | [] => true
  | item :: items => item.isWhole && itemsAreWhole items

def membersAreWhole : List (List Piece × Tree) → Bool
  | [] => true
  | (_, value) :: members => value.isWhole && membersAreWhole members

end

/-- A container that is being read, with what it holds so far, the last first. -/
inductive Frame where
  | array (items : List Tree)
  /-- The value of the key is being read. -/
  | object (members : List (List Piece × Tree)) (key : List Piece)

/-- Ends the containers of a text that breaks off after `tree`, which belongs to the innermost. -/
def breakOff : List Frame → Tree → Tree
  | [], tree => tree
  | .array items :: frames, tree => breakOff frames (array (tree :: items).reverse false)
  | .object members key :: frames, tree =>
    breakOff frames (object ((key, tree) :: members).reverse false)

/-- How far a reader of words has come. The frames are the containers around it, the innermost
first. -/
inductive Progress where
  /-- Before a value. -/
  | value (frames : List Frame)
  /-- Just inside a new array. -/
  | arrayStart (frames : List Frame)
  /-- Just inside a new object. -/
  | objectStart (frames : List Frame)
  /-- After a comma in an object. -/
  | key (frames : List Frame) (members : List (List Piece × Tree))
  | colon (frames : List Frame) (members : List (List Piece × Tree)) (key : List Piece)
  | afterValue (frames : List Frame) (tree : Tree)
  /-- At a place that breaks the grammar. -/
  | stopped (tree : Tree)

namespace Progress

def startValue (frames : List Frame) : Token → Progress
  | .null => afterValue frames .null
  | .bool b => afterValue frames (.bool b)
  | .number numeral => afterValue frames (.number numeral)
  | .string pieces => afterValue frames (.string pieces)
  | .openArray => arrayStart frames
  | .openObject => objectStart frames
  | .closeArray | .closeObject | .comma | .colon | .garbage => stopped (breakOff frames .broken)

/-- The progress after one more word. -/
def step : Progress → Token → Progress
  | value frames, token => startValue frames token
  | arrayStart frames, token =>
    match token with
    | .closeArray => afterValue frames (.array [] true)
    | token => startValue (.array [] :: frames) token
  | objectStart frames, token =>
    match token with
    | .closeObject => afterValue frames (.object [] true)
    | .string pieces => colon frames [] pieces
    | _ => stopped (breakOff frames (.object [] false))
  | key frames members, token =>
    match token with
    | .string pieces => colon frames members pieces
    | _ => stopped (breakOff frames (.object members.reverse false))
  | colon frames members pieces, token =>
    match token with
    | .colon => value (.object members pieces :: frames)
    | _ => stopped (breakOff (.object members pieces :: frames) .broken)
  | afterValue [] tree, _ => stopped tree
  | afterValue (.array items :: frames) tree, token =>
    match token with
    | .comma => value (.array (tree :: items) :: frames)
    | .closeArray => afterValue frames (.array (tree :: items).reverse true)
    | _ => stopped (breakOff (.array items :: frames) tree)
  | afterValue (.object members pieces :: frames) tree, token =>
    match token with
    | .comma => key frames ((pieces, tree) :: members)
    | .closeObject => afterValue frames (.object ((pieces, tree) :: members).reverse true)
    | _ => stopped (breakOff (.object members pieces :: frames) tree)
  | stopped tree, _ => stopped tree

/-- What has been read when the words end, and whether it is all of one JSON text. -/
def finish : Progress → Tree × Bool
  | value frames => (breakOff frames .broken, false)
  | arrayStart frames => (breakOff frames (.array [] false), false)
  | objectStart frames => (breakOff frames (.object [] false), false)
  | key frames members => (breakOff frames (.object members.reverse false), false)
  | colon frames members pieces => (breakOff (.object members pieces :: frames) .broken, false)
  | afterValue [] tree => (tree, true)
  | afterValue (frame :: frames) tree => (breakOff (frame :: frames) tree, false)
  | stopped tree => (tree, false)

end Progress

/-- Reads a text. The second part says that nothing follows the value and nothing is missing. -/
def ofText (text : String) : Tree × Bool :=
  ((Token.readAll text.toList).foldl Progress.step (.value [])).finish

end Tree

end TemplateCompiler.Json
