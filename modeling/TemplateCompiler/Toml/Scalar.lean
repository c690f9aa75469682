import TemplateCompiler.Toml.Item

namespace TemplateCompiler.Toml

/-- The characters of values other than strings, arrays and tables. -/
def isScalarChar (c : Char) : Bool :=
  c.isAlphanum || c == '+' || c == '-' || c == '_' || c == '.' || c == ':'

/-- The digits of a number without the underscores, each of which must stand between two digits. -/
def ungroup? (isDigit : Char → Bool) : List Char → Option (List Char)
  | [] => none
  | [c] => if isDigit c then some [c] else none
  | c :: '_' :: cs => if isDigit c then (ungroup? isDigit cs).map (c :: ·) else none
  | c :: cs => if isDigit c then (ungroup? isDigit cs).map (c :: ·) else none

def digitValue (c : Char) : Nat :=
  if c.isDigit then c.toNat - 48 else if c.isUpper then c.toNat - 55 else c.toNat - 87

def ofDigits (base : Nat) (digits : List Char) : Nat :=
  digits.foldl (fun value c => value * base + digitValue c) 0

/-- The sign of a number, minus as true, and what follows it. -/
def splitSign : List Char → Bool × List Char
  | '+' :: cs => (false, cs)
  | '-' :: cs => (true, cs)
  | cs => (false, cs)

/-- The digits of a whole number, which has no zero in front of another digit. -/
def wholeDigits? (cs : List Char) : Option (List Char) :=
  match ungroup? Char.isDigit cs with
  | some digits => if digits.head? = some '0' && digits.length ≠ 1 then none else some digits
  | none => none

def isOctal (c : Char) : Bool :=
  '0' ≤ c && c ≤ '7'

def isBinary (c : Char) : Bool :=
  c == '0' || c == '1'

def isHexadecimal (c : Char) : Bool :=
  c.isDigit || ('a' ≤ c && c ≤ 'f') || ('A' ≤ c && c ≤ 'F')

/-- The value of an integer. -/
def readInteger? (cs : List Char) : Option Int :=
  match cs with
  | '0' :: 'x' :: digits => (ungroup? isHexadecimal digits).map fun digits => ofDigits 16 digits
  | '0' :: 'o' :: digits => (ungroup? isOctal digits).map fun digits => ofDigits 8 digits
  | '0' :: 'b' :: digits => (ungroup? isBinary digits).map fun digits => ofDigits 2 digits
  | cs =>
    let (negative, digits) := splitSign cs
    (wholeDigits? digits).map fun digits =>
      if negative then -(ofDigits 10 digits : Int) else ofDigits 10 digits

/-- The floating point number nearest to `coefficient * 10 ^ power`, unless it is too large. -/
def nearestFloat? (coefficient : Nat) (power : Int) : Option Float :=
  let places := (Nat.toDigits 10 coefficient).length + power
  if coefficient = 0 || places < -400 then some 0
  else if 400 < places then none
  else
    let number := Float.ofScientific coefficient (power < 0) power.natAbs
    if number.isInf then none else some number

def isExponentMark (c : Char) : Bool :=
  c == 'e' || c == 'E'

/-- The value of an exponent with its mark, 0 if there is none. -/
def readExponent? : List Char → Option Int
  | [] => some 0
  | _ :: cs =>
    let (negative, digits) := splitSign cs
    (ungroup? Char.isDigit digits).map fun digits =>
      if negative then -(ofDigits 10 digits : Int) else ofDigits 10 digits

/-- The digits after a point, and none if there is no point. -/
def readFraction? : List Char → Option (List Char)
  | [] => some []
  | '.' :: cs => ungroup? Char.isDigit cs
  | _ => none

/-- The value of a number with a point or an exponent. -/
def readDecimal? (cs : List Char) : Option Float := do
  let (negative, cs) := splitSign cs
  let fixed := cs.takeWhile fun c => !isExponentMark c
  let whole ← wholeDigits? (fixed.takeWhile (· != '.'))
  let fraction ← readFraction? (fixed.dropWhile (· != '.'))
  let exponent ← readExponent? (cs.dropWhile fun c => !isExponentMark c)
  let number ← nearestFloat? (ofDigits 10 (whole ++ fraction)) (exponent - fraction.length)
  pure (if negative then -number else number)

def infinity : Float := 1.0 / 0.0

def notANumber : Float := 0.0 / 0.0

/-- The value of a floating point number. -/
def readFloat? (cs : List Char) : Option Float :=
  let (negative, name) := splitSign cs
  if name = ['i', 'n', 'f'] then some (if negative then -infinity else infinity)
  else if name = ['n', 'a', 'n'] then some notANumber
  else readDecimal? cs

/-- Reads a number of exactly `count` digits. -/
def readPlaces? (count : Nat) (cs : List Char) : Option (Nat × List Char) :=
  let digits := cs.take count
  if digits.length = count && digits.all Char.isDigit then some (ofDigits 10 digits, cs.drop count)
  else none

def expect? (c : Char) : List Char → Option (List Char)
  | [] => none
  | d :: cs => if c = d then some cs else none

def daysIn (year month : Nat) : Nat :=
  if month = 2 then
    if year % 4 = 0 && (year % 100 ≠ 0 || year % 400 = 0) then 29 else 28
  else if month = 4 || month = 6 || month = 9 || month = 11 then 30
  else 31

/-- The text after a date. -/
def readDate? (cs : List Char) : Option (List Char) := do
  let (year, cs) ← readPlaces? 4 cs
  let cs ← expect? '-' cs
  let (month, cs) ← readPlaces? 2 cs
  let cs ← expect? '-' cs
  let (day, cs) ← readPlaces? 2 cs
  if 1 ≤ month && month ≤ 12 && 1 ≤ day && day ≤ daysIn year month then pure cs else none

/-- The text after a time of day, which may leave out its seconds. -/
def readTime? (cs : List Char) : Option (List Char) := do
  let (hour, cs) ← readPlaces? 2 cs
  let cs ← expect? ':' cs
  let (minute, cs) ← readPlaces? 2 cs
  if hour ≤ 23 && minute ≤ 59 then
    match cs with
    | ':' :: cs =>
      let (second, cs) ← readPlaces? 2 cs
      if second ≤ 60 then
        match cs with
        | '.' :: c :: cs => if c.isDigit then pure (cs.dropWhile Char.isDigit) else none
        | cs => pure cs
      else none
    | cs => pure cs
  else none

/-- Whether a text is a distance from universal time, or nothing. -/
def isOffset (cs : List Char) : Bool :=
  match cs with
  | [] => true
  | ['Z'] => true
  | ['z'] => true
  | sign :: cs =>
    (sign == '+' || sign == '-') &&
      match readPlaces? 2 cs with
      | some (hour, ':' :: cs) =>
        match readPlaces? 2 cs with
        | some (minute, []) => hour ≤ 23 && minute ≤ 59
        | _ => false
      | _ => false

/-- Whether a text is a date, a time, or both with the letter T between them. -/
def isDatetime (cs : List Char) : Bool :=
  match readDate? cs with
  | some [] => true
  | some (mark :: rest) => (mark == 'T' || mark == 't') && (readTime? rest).any isOffset
  | none => (readTime? cs).any List.isEmpty

/-- Integers lie from minus this number to just below it. -/
def integerLimit : Int := 9223372036854775808

def ofScalarText? (cs : List Char) : Option Item :=
  if cs = ['t', 'r', 'u', 'e'] then some (.bool true)
  else if cs = ['f', 'a', 'l', 's', 'e'] then some (.bool false)
  else
    match readInteger? cs with
    | some value => if -integerLimit ≤ value && value < integerLimit then some (.integer value) else none
    | none =>
      match readFloat? cs with
      | some value => some (.float value)
      | none => if isDatetime cs then some .datetime else none

/-- Reads a value that is not a string, an array or a table. A date and a time may also have a
blank between them. -/
def readScalar? (cs : List Char) : Option (Item × List Char) :=
  let text := cs.takeWhile isScalarChar
  match readDate? text, cs.dropWhile isScalarChar with
  | some [], ' ' :: c :: rest =>
    if c.isDigit then
      let time := (c :: rest).takeWhile isScalarChar
      (ofScalarText? (text ++ 'T' :: time)).map (·, (c :: rest).dropWhile isScalarChar)
    else some (.datetime, ' ' :: c :: rest)
  | _, rest => (ofScalarText? text).map (·, rest)

end TemplateCompiler.Toml
