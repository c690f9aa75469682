import TemplateCompiler.Decimal.Layout
import TemplateCompiler.Json.Value

namespace TemplateCompiler.Json

/-- Numbers are written with an exponent below `10 ^ -5` and from `10 ^ 16` on. -/
def floatLayout : Decimal.Layout :=
  ⟨fun exponent => -5 ≤ exponent && exponent < 16, .toEven⟩

def Number.text : Number → String
  | integer value => toString value
  | float value => floatLayout.write value

def escapeChar (c : Char) : String :=
  if c = '"' then "\\\""
  else if c = '\\' then "\\\\"
  else if c < ' ' then
    let digits := Nat.toDigits 16 c.toNat
    "\\u" ++ String.ofList (List.replicate (4 - digits.length) '0' ++ digits)
  else c.toString

def quote (text : String) : String :=
  "\"" ++ text.foldl (fun quoted c => quoted ++ escapeChar c) "" ++ "\""

namespace Value

mutual

/-- The text of a value, without blanks. -/
def text : Value → String
  | null => "null"
  | bool b => if b then "true" else "false"
  | number n => n.text
  | string s => quote s
  | array items => "[" ++ String.intercalate "," (itemTexts items) ++ "]"
  | object members => "\x7b" ++ String.intercalate "," (memberTexts members) ++ "\x7d"

def itemTexts : List Value → List String
  | [] => []
  | item :: items => item.text :: itemTexts items

def memberTexts : List (String × Value) → List String
  | [] => []
  | (key, value) :: members => (quote key ++ ":" ++ value.text) :: memberTexts members

end

end Value

end TemplateCompiler.Json
