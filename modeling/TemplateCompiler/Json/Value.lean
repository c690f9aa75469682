import TemplateCompiler.Json.Tree

namespace TemplateCompiler.Json

/-- A JSON value. The members of an object have distinct keys in ascending order. -/
inductive Value where
  | null
  | bool (value : Bool)
  | number (number : Number)
  | string (text : String)
  | array (items : List Value)
  | object (members : List (String × Value))
  deriving Inhabited, Repr

namespace Piece

def isHighSurrogate (code : Nat) : Bool :=
  0xD800 ≤ code && code ≤ 0xDBFF

def isLowSurrogate (code : Nat) : Bool :=
  0xDC00 ≤ code && code ≤ 0xDFFF

/-- The character that two surrogates stand for. -/
def joinSurrogates (high low : Nat) : Char :=
  Char.ofNat (0x10000 + (high - 0xD800) * 0x400 + (low - 0xDC00))

/-- The characters of a string. A surrogate without its partner stands for none. -/
def decode? : List Piece → Option (List Char)
  | [] => some []
  | char c :: pieces => (decode? pieces).map (c :: ·)
  | unit high :: unit low :: pieces =>
    if isHighSurrogate high then
      if isLowSurrogate low then (decode? pieces).map (joinSurrogates high low :: ·) else none
    else if isLowSurrogate high then none
    else (decode? (unit low :: pieces)).map (Char.ofNat high :: ·)
  | unit code :: pieces =>
    if isHighSurrogate code || isLowSurrogate code then none
    else (decode? pieces).map (Char.ofNat code :: ·)

def toString? (pieces : List Piece) : Option String :=
  (decode? pieces).map String.ofList

end Piece

namespace Value

/-- Puts a member into its place; an earlier member with the same key is replaced. -/
def insertMember (key : String) (value : Value) : List (String × Value) → List (String × Value)
  | [] => [(key, value)]
  | (other, old) :: members =>
    if key = other then (key, value) :: members
    else if key < other then (key, value) :: (other, old) :: members
    else (other, old) :: insertMember key value members

def find? (key : String) : Value → Option Value
  | object members => members.lookup key
  | _ => none

def isNull : Value → Bool
  | null => true
  | _ => false

end Value

namespace Tree

mutual

/-- The value of a tree in which arrays and objects nest at most `depth` deep. There is none if the
grammar is broken, the nesting is deeper, a number is too large or a string holds half a character. -/
def toValue? (depth : Nat) : Tree → Option Value
  | null => some .null
  | bool value => some (.bool value)
  | number numeral => numeral.toNumber?.map .number
  | string pieces => (Piece.toString? pieces).map .string
  | array items closed =>
    match depth with
    | 0 => none
    | depth + 1 => if closed then (toValues? depth items).map .array else none
  | object members closed =>
    match depth with
    | 0 => none
    | depth + 1 => if closed then (toMembers? depth [] members).map .object else none
  | broken => none

def toValues? (depth : Nat) : List Tree → Option (List Value)
  | [] => some []
  | item :: items =>
    match toValue? depth item, toValues? depth items with
    | some value, some values => some (value :: values)
    | _, _ => none

/-- Adds the members in the order of the text, so that the last of several with one key stays. -/
def toMembers? (depth : Nat) (before : List (String × Value)) :
    List (List Piece × Tree) → Option (List (String × Value))
  | [] => some before
  | (pieces, tree) :: members =>
    match Piece.toString? pieces, toValue? depth tree with
    | some key, some value => toMembers? depth (Value.insertMember key value before) members
    | _, _ => none

end

end Tree

/-- The value of a text whose arrays and objects nest at most `depth` deep. -/
def Value.ofText? (depth : Nat) (text : String) : Option Value :=
  let (tree, complete) := Tree.ofText text
  if complete then tree.toValue? depth else none

end TemplateCompiler.Json
