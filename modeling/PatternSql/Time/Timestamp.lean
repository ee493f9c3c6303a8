import PatternSql.Text.Blank
import PatternSql.Text.Digits
import PatternSql.Time.Calendar

/-!
# Timestamps

A timestamp is read in one of two forms.  The zoned form has parts of fixed width and
ends with a zone; the zoneless form has parts of free width, allows blank characters
before each number and signed years, and is taken as universal time.  The zoned form
is tried first.

Single quotes anywhere, blank characters at both ends and a `t` in front are
decorations, and are removed before reading.
-/

namespace PatternSql

namespace Timestamp

/-! ### Parts of a timestamp -/

open Text

/-- The leading digits of a text, at most `count` of them. -/
def leadingDigits : Nat → List Char → List Char
  | 0, _ => []
  | _ + 1, [] => []
  | count + 1, c :: rest => if c.isDigit then c :: leadingDigits count rest else []

/-- A number of one up to `count` digits, and what follows it. -/
def takeNumber? (count : Nat) (cs : List Char) : Option (Nat × List Char) :=
  match leadingDigits count cs with
  | [] => none
  | digits => some (digitsValue digits, cs.drop digits.length)

/-- A number of exactly `count` digits, and what follows it. -/
def takeFixed? (count : Nat) (cs : List Char) : Option (Nat × List Char) :=
  let digits := leadingDigits count cs
  if digits.length = count then some (digitsValue digits, cs.drop count) else none

/-- What follows a given character. -/
def takeChar? (expected : Char) : List Char → Option (List Char)
  | [] => none
  | c :: rest => if c = expected then some rest else none

/-- The milliseconds that the digits after a decimal point denote, in whole numbers. -/
def fractionMillis (digits : List Char) : Nat :=
  digitsValue ((digits ++ ['0', '0', '0']).take 3)

/-- The milliseconds of an optional fraction, and what follows it.  A point must be followed by a
digit. -/
def takeFraction? : List Char → Option (Nat × List Char)
  | '.' :: rest =>
    match rest.takeWhile Char.isDigit with
    | [] => none
    | digits => some (fractionMillis digits, rest.dropWhile Char.isDigit)
  | cs => some (0, cs)

/-- The milliseconds since 1970 of a date and time, when both exist. -/
def instant? (date : Date) (clock : Clock) (offset : Int) : Option Int :=
  if date.isValid && clock.isValid then some (epochMillis date clock offset) else none

/-! ### The zoned form -/

/-- What follows the character between date and time. -/
def takeDivider? : List Char → Option (List Char)
  | 'T' :: rest => some rest
  | 't' :: rest => some rest
  | ' ' :: rest => some rest
  | _ => none

/-- The minutes of a zone without its sign: two digits, a colon and two digits, below a day. -/
def zoneMinutes? (cs : List Char) : Option Nat := do
  let (hours, cs) ← takeFixed? 2 cs
  let cs ← takeChar? ':' cs
  let (minutes, cs) ← takeFixed? 2 cs
  if cs.isEmpty && minutes ≤ 59 && hours ≤ 23 then some (60 * hours + minutes) else none

/-- The minutes by which a zone is ahead; the zone is the rest of the text. -/
def zone? : List Char → Option Int
  | ['Z'] => some 0
  | ['z'] => some 0
  | '+' :: rest => (zoneMinutes? rest).map fun (minutes : Nat) => (minutes : Int)
  | '-' :: rest => (zoneMinutes? rest).map fun (minutes : Nat) => -(minutes : Int)
  | '\u2212' :: rest => (zoneMinutes? rest).map fun (minutes : Nat) => -(minutes : Int)
  | _ => none

/-- Read a timestamp with a zone. -/
def zoned? (cs : List Char) : Option Int := do
  let (year, cs) ← takeFixed? 4 cs
  let cs ← takeChar? '-' cs
  let (month, cs) ← takeFixed? 2 cs
  let cs ← takeChar? '-' cs
  let (day, cs) ← takeFixed? 2 cs
  let cs ← takeDivider? cs
  let (hour, cs) ← takeFixed? 2 cs
  let cs ← takeChar? ':' cs
  let (minute, cs) ← takeFixed? 2 cs
  let cs ← takeChar? ':' cs
  let (second, cs) ← takeFixed? 2 cs
  let (millis, cs) ← takeFraction? cs
  let offset ← zone? cs
  instant? { year, month, day } { hour, minute, second, millis } offset

/-! ### The zoneless form -/

/-- The years that a date may have. -/
def isYear (year : Int) : Bool :=
  -262143 ≤ year && year ≤ 262142

/-- The year after a sign, of any number of digits. -/
def takeSignedYear? (sign : Int) (cs : List Char) : Option (Int × List Char) :=
  (takeNumber? cs.length cs).map fun parts => (sign * parts.1, parts.2)

/-- A year: up to four digits, or a sign and any number of digits. -/
def takeYear? (cs : List Char) : Option (Int × List Char) :=
  match trimStart cs with
  | '-' :: rest => takeSignedYear? (-1) rest
  | '+' :: rest => takeSignedYear? 1 rest
  | cs => (takeNumber? 4 cs).map fun parts => ((parts.1 : Int), parts.2)

/-- A number of one or two digits, after blank characters. -/
def takePair? (cs : List Char) : Option (Nat × List Char) :=
  takeNumber? 2 (trimStart cs)

/-- Read a timestamp without a zone. -/
def zoneless? (cs : List Char) : Option Int := do
  let (year, cs) ← takeYear? cs
  let cs ← takeChar? '-' cs
  let (month, cs) ← takePair? cs
  let cs ← takeChar? '-' cs
  let (day, cs) ← takePair? cs
  let cs ← takeChar? 'T' cs
  let (hour, cs) ← takePair? cs
  let cs ← takeChar? ':' cs
  let (minute, cs) ← takePair? cs
  let cs ← takeChar? ':' cs
  let (second, cs) ← takePair? cs
  let (millis, cs) ← takeFraction? cs
  if cs.isEmpty && isYear year then
    instant? { year, month, day } { hour, minute, second, millis } 0
  else none

/-! ### Decorations -/

/-- The text without single quotes, blank ends and a `t` in front. -/
def undecorated (cs : List Char) : List Char :=
  match trim (cs.filter fun c => c != '\x27') with
  | 't' :: rest => rest
  | cs => cs

/-- Read an undecorated timestamp. -/
def plain? (cs : List Char) : Option Int :=
  (zoned? cs).or (zoneless? cs)

/-- The milliseconds since 1970 of a timestamp. -/
def millis? (text : String) : Option Int :=
  plain? (undecorated text.toList)

end Timestamp

end PatternSql
