import PatternSql.Double.Decimal
import PatternSql.Json.Basic
import PatternSql.Text.Integer

/-!
# Writing values

The text of a JSON value, without white space.  In strings the double quote, the
backslash and the control characters are written as escapes.  A double always has a
point or an exponent, so that it is not read back as an integer.
-/

namespace PatternSql

namespace Json

/-! ### Strings -/

/-- A digit of a hexadecimal number. -/
def hexDigit (value : Nat) : Char :=
  Nat.digitChar value

/-- A character of a string as it is written. -/
def charText (c : Char) : List Char :=
  match c with
  | '\x22' => ['\x5c', '\x22']
  | '\x5c' => ['\x5c', '\x5c']
  | '\x08' => ['\x5c', 'b']
  | '\x0c' => ['\x5c', 'f']
  | '\x0a' => ['\x5c', 'n']
  | '\x0d' => ['\x5c', 'r']
  | '\x09' => ['\x5c', 't']
  | c =>
    if c.toNat < 0x20 then
      ['\x5c', 'u', '0', '0', hexDigit (c.toNat / 16), hexDigit (c.toNat % 16)]
    else [c]

/-- A string between double quotes. -/
def stringText (value : String) : List Char :=
  '\x22' :: (value.toList.flatMap charText ++ ['\x22'])

/-! ### Numbers -/

/-- A decimal is written with every digit in its place when fewer than five zeros follow the point
and at most sixteen digits stand before it. -/
def isPositional (d : Decimal) : Bool :=
  -5 < d.point && d.point ≤ 16

/-- A double: positional with at least one digit after the point, or with an exponent. -/
def doubleText (x : Double) : List Char :=
  let d := x.shortest
  x.signText ++
    if isPositional d then
      if 0 ≤ d.exponent then d.positional ++ ['.', '0'] else d.positional
    else d.scientific

/-- The text of a number. -/
def numberText : Number → List Char
  | .int value => Text.intChars value
  | .double value => doubleText value

/-! ### Values -/

mutual

/-- The characters of a value. -/
def chars : Json → List Char
  | .null => ['n', 'u', 'l', 'l']
  | .bool true => ['t', 'r', 'u', 'e']
  | .bool false => ['f', 'a', 'l', 's', 'e']
  | .number value => numberText value
  | .string value => stringText value
  | .array items => '[' :: (itemsChars items ++ [']'])
  | .object members => '\x7b' :: (membersChars members ++ ['\x7d'])

/-- The characters of items, with commas between them. -/
def itemsChars : List Json → List Char
  | [] => []
  | [item] => item.chars
  | item :: rest => item.chars ++ ',' :: itemsChars rest

/-- The characters of members, with commas between them. -/
def membersChars : List (String × Json) → List Char
  | [] => []
  | [member] => stringText member.1 ++ ':' :: member.2.chars
  | member :: rest => stringText member.1 ++ ':' :: (member.2.chars ++ ',' :: membersChars rest)

end

/-- The text of a value. -/
def text (value : Json) : String :=
  String.ofList value.chars

end Json

end PatternSql
