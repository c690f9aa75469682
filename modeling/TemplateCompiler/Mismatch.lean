import TemplateCompiler.Decimal.Layout
import TemplateCompiler.Template.Kind
import TemplateCompiler.Text.Quoted

namespace TemplateCompiler

/-- What stands in a data text in the place of something else. -/
inductive Found where
  | null
  | bool (value : Bool)
  | integer (value : Int)
  | float (value : Float)
  | string (text : String)
  | sequence
  | map

/-- A data text that keeps the rules of its format but does not have the form that was asked for. -/
inductive Mismatch where
  | wrongType (found : Found) (wanted : String)
  /-- An integer that the wanted integer type does not have. -/
  | outOfRange (value : Int) (wanted : String)
  /-- A sequence that ends before the first field that it must have. -/
  | tooShort (wanted : String)
  | missingField (name : String)
  | duplicateField (name : String)
  | unknownField (name : String) (known : List String)
  | unknownKind (tag : Nat)

def backquoted (name : String) : String :=
  "\x60" ++ name ++ "\x60"

/-- Floating point numbers are written as the layout says. -/
def Found.describe (layout : Decimal.Layout) : Found → String
  | null => "null"
  | bool value => "boolean " ++ backquoted (if value then "true" else "false")
  | integer value => "integer " ++ backquoted (toString value)
  | float value => "floating point " ++ backquoted (layout.write value)
  | string text => "string " ++ Text.quoted text
  | sequence => "sequence"
  | map => "map"

def Mismatch.describe (layout : Decimal.Layout) : Mismatch → String
  | wrongType found wanted => "invalid type: " ++ found.describe layout ++ ", expected " ++ wanted
  | outOfRange value wanted =>
    "invalid value: " ++ (Found.integer value).describe layout ++ ", expected " ++ wanted
  | tooShort wanted => "invalid length 0, expected " ++ wanted
  | missingField name => "missing field " ++ backquoted name
  | duplicateField name => "duplicate field " ++ backquoted name
  | unknownField name known =>
    "unknown field " ++ backquoted name ++ ", expected one of " ++
      String.intercalate ", " (known.map backquoted)
  | unknownKind tag => Kind.unknownTagMessage tag

end TemplateCompiler
