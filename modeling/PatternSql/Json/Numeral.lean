import PatternSql.Json.Basic
import PatternSql.Text.Digits

/-!
# Numerals

The numerals of JSON and the numbers that they denote.  A numeral without point
and exponent denotes an integer as long as it fits 64 bits; minus zero and every
other numeral denote a double.

A double is read in double arithmetic: the leading digits that fit an unsigned 64
bit integer are taken as one integer, and this is scaled once by a power of ten.
Digits of the whole part beyond them only raise the power, and digits of the
fraction beyond them are dropped.
-/

namespace PatternSql

namespace Json

/-- A numeral, part by part. -/
structure Numeral where
  /-- Whether a minus sign stands in front. -/
  negative : Bool
  /-- The digits before the point. -/
  whole : List Char
  /-- The digits after the point, none when there is no point. -/
  fraction : List Char
  /-- The exponent's sign and digits, when there is one. -/
  exponent : Option (Bool × List Char)

namespace Numeral

open Text

/-- The leading run of digits, if there is one, and what follows it. -/
def takeDigits? (cs : List Char) : Option (List Char × List Char) :=
  match cs.takeWhile Char.isDigit with
  | [] => none
  | digits => some (digits, cs.dropWhile Char.isDigit)

/-- The digits before the point: a zero stands alone. -/
def takeWhole? : List Char → Option (List Char × List Char)
  | '0' :: rest => some (['0'], rest)
  | cs => takeDigits? cs

/-- The digits after the point, at least one when there is a point. -/
def takeFraction? : List Char → Option (List Char × List Char)
  | '.' :: rest => takeDigits? rest
  | cs => some ([], cs)

/-- The exponent's sign. -/
def takeSign : List Char → Bool × List Char
  | '-' :: rest => (true, rest)
  | '+' :: rest => (false, rest)
  | cs => (false, cs)

/-- The digits of an exponent, with its sign; nothing may follow them. -/
def readPower? (cs : List Char) : Option (Option (Bool × List Char)) :=
  let signed := takeSign cs
  (takeDigits? signed.2).bind fun parts =>
    if parts.2.isEmpty then some (some (signed.1, parts.1)) else none

/-- The exponent, at least one digit when it is marked; nothing may follow it. -/
def readExponent? : List Char → Option (Option (Bool × List Char))
  | [] => some none
  | 'e' :: cs => readPower? cs
  | 'E' :: cs => readPower? cs
  | _ => none

/-- A minus sign in front. -/
def takeMinus : List Char → Bool × List Char
  | '-' :: rest => (true, rest)
  | cs => (false, cs)

/-- Read a numeral that takes the whole text. -/
def read? (cs : List Char) : Option Numeral := do
  let (negative, cs) := takeMinus cs
  let (whole, cs) ← takeWhole? cs
  let (fraction, cs) ← takeFraction? cs
  let exponent ← readExponent? cs
  pure { negative, whole, fraction, exponent }

/-- The least number of more than 64 bits. -/
def wordLimit : Nat := Nat.pow 2 64

/-- Read digits into an integer as long as it stays below the limit; what is left starts with the
first digit that does not fit. -/
def takeWord (value : Nat) : List Char → Nat × List Char
  | [] => (value, [])
  | c :: rest =>
    if 10 * value + digitValue c < wordLimit then takeWord (10 * value + digitValue c) rest
    else (value, c :: rest)

/-- The greatest power of ten that one step scales by. -/
def powerLimit : Nat := 308

/-- The double nearest to a power of ten within the limit. -/
def powerOfTen (power : Nat) : Double :=
  (Double.ofRatio? (Nat.pow 10 power) 1).getD Double.zero

/-- Divide a number of times by the greatest power, while there is something left. -/
def divideTimes : Nat → Double → Option Double
  | 0, value => some value
  | times + 1, value =>
    if value.isZero then some value
    else (value.div? (powerOfTen powerLimit)).bind (divideTimes times)

/-- Divide by `10 ^ power`, in steps of the greatest power as long as more than it is left. -/
def scaleDown (value : Double) (power : Nat) : Option Double :=
  let times := (power - 1) / powerLimit
  (divideTimes times value).bind fun rest => rest.div? (powerOfTen (power - times * powerLimit))

/-- Multiply by `10 ^ power`; beyond the limit only zero has a product. -/
def scaleUp (value : Double) (power : Nat) : Option Double :=
  if power ≤ powerLimit then value.mul? (powerOfTen power)
  else if value.isZero then some value
  else none

/-- The double `significand · 10 ^ power`. -/
def scaled (significand : Nat) (power : Int) : Option Double :=
  (Double.ofRatio? significand 1).bind fun value =>
    if power < 0 then scaleDown value power.natAbs else scaleUp value power.natAbs

/-- The least exponent digits value that no longer counts as a number of 32 bits. -/
def exponentLimit : Nat := Nat.pow 2 31

/-- The magnitude of a numeral as a double, `none` beyond the finite doubles. -/
def magnitude (n : Numeral) : Option Double :=
  let (whole, dropped) := takeWord 0 n.whole
  let (significand, unread) := takeWord whole n.fraction
  let power : Int := dropped.length - (n.fraction.length - unread.length : Nat)
  match n.exponent with
  | none => scaled significand power
  | some (below, digits) =>
    let exponent := digitsValue digits
    if exponent < exponentLimit then
      scaled significand (if below then power - exponent else power + exponent)
    else if below || significand = 0 then some Double.zero
    else none

/-- The integer that a numeral denotes when it has neither point nor exponent: within 64 bits, and
below zero when there is a minus sign. -/
def int? (n : Numeral) : Option Int :=
  if n.fraction.isEmpty && n.exponent.isNone then
    let value := digitsValue n.whole
    if n.negative then
      if 0 < value && value ≤ Nat.pow 2 63 then some (-(value : Int)) else none
    else if value < wordLimit then some (value : Int) else none
  else none

/-- The number that a numeral denotes, `none` when it is beyond the finite doubles. -/
def value? (n : Numeral) : Option Number :=
  match n.int? with
  | some value => some (.int value)
  | none => n.magnitude.map fun size => .double (size.withSign n.negative)

end Numeral

end Json

end PatternSql
