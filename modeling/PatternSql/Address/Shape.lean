import PatternSql.Text.Digits
import PatternSql.Text.Split

/-!
# Shapes of addresses

The text of an address has a shape: a network address of version six or four, the
same with the length of a network part, or a hardware address.  The shapes are told
by classifiers, tried in a fixed order.
-/

namespace PatternSql

/-- The shape of an address. -/
inductive Shape where
  | ipv6
  | ipv6Cidr
  | ipv4
  | ipv4Cidr
  | mac
deriving DecidableEq

namespace Shape

/-- The shapes, in the order in which they are tried. -/
def all : List Shape := [.ipv6, .ipv6Cidr, .ipv4, .ipv4Cidr, .mac]

/-- The name of a shape. -/
def name : Shape → String
  | .ipv6 => "ipv6"
  | .ipv6Cidr => "ipv6_cidr"
  | .ipv4 => "ipv4"
  | .ipv4Cidr => "ipv4_cidr"
  | .mac => "mac"

/-- The shape of a name. -/
def ofName? (name : String) : Option Shape :=
  all.find? fun shape => shape.name == name

/-- A shape is found under its own name. -/
theorem ofName?_name (shape : Shape) : ofName? shape.name = some shape := by
  cases shape <;> decide

end Shape

namespace Address

/-! ### Numbers and digits -/

/-- Whether a character is a hexadecimal digit. -/
def isHexDigit (c : Char) : Bool :=
  c.isDigit || ('a' ≤ c && c ≤ 'f') || ('A' ≤ c && c ≤ 'F')

/-- Whether a text is a field of a version four address: one to three digits, at most 255. -/
def isByteField (cs : List Char) : Bool :=
  1 ≤ cs.length && cs.length ≤ 3 && cs.all Char.isDigit && Text.digitsValue cs ≤ 255

/-- Whether a text is the numeral of a number up to a bound, without leading zeros. -/
def isBounded (bound : Nat) (cs : List Char) : Bool :=
  cs.all Char.isDigit && Text.digitsValue cs ≤ bound &&
    match cs with
    | [] => false
    | '0' :: rest => rest.isEmpty
    | _ :: _ => true

/-- Whether a text is a group of a version six address: one to four hexadecimal digits. -/
def isGroup (cs : List Char) : Bool :=
  1 ≤ cs.length && cs.length ≤ 4 && cs.all isHexDigit

/-! ### Addresses of version four -/

/-- Four fields joined by dots. -/
def isIpv4 (cs : List Char) : Bool :=
  let fields := Text.pieces '.' cs
  fields.length = 4 && fields.all isByteField

/-! ### Addresses of version six -/

/-- The number of groups joined by single colons, none for the empty text; `none` when the text is
not of that form. -/
def groupCount? (cs : List Char) : Option Nat :=
  if cs.isEmpty then some 0
  else
    let groups := Text.pieces ':' cs
    if groups.all isGroup then some groups.length else none

/-- The parts before and after the first double colon. -/
def cutGap? : List Char → Option (List Char × List Char)
  | ':' :: ':' :: rest => some ([], rest)
  | c :: rest => (cutGap? rest).map fun parts => (c :: parts.1, parts.2)
  | [] => none

/-- Eight groups joined by colons, or at most seven with one double colon for the missing ones. -/
def isIpv6 (cs : List Char) : Bool :=
  match cutGap? cs with
  | none => groupCount? cs == some 8
  | some (before, after) =>
    match groupCount? before, groupCount? after with
    | some m, some n => m + n ≤ 7
    | _, _ => false

/-! ### Networks and hardware addresses -/

/-- An address, a slash and the numeral of a length up to a bound. -/
def isNetwork (isAddress : List Char → Bool) (bound : Nat) (cs : List Char) : Bool :=
  match Text.cutFirst? '/' cs with
  | some (address, length) => isAddress address && isBounded bound length
  | none => false

/-- Pairs of hexadecimal digits, `count` of them, each but the last before a colon or a hyphen. -/
def isPairs : Nat → List Char → Bool
  | 0, _ => false
  | 1, [high, low] => isHexDigit high && isHexDigit low
  | count + 2, high :: low :: divider :: rest =>
    isHexDigit high && isHexDigit low && (divider = ':' || divider = '-') &&
      isPairs (count + 1) rest
  | _, _ => false

/-- Six pairs of hexadecimal digits. -/
def isMac (cs : List Char) : Bool :=
  isPairs 6 cs

end Address

/-! ### Classification -/

/-- Whether a text is of a shape. -/
def Shape.recognizes (shape : Shape) (cs : List Char) : Bool :=
  match shape with
  | .ipv6 => Address.isIpv6 cs
  | .ipv6Cidr => Address.isNetwork Address.isIpv6 128 cs
  | .ipv4 => Address.isIpv4 cs
  | .ipv4Cidr => Address.isNetwork Address.isIpv4 32 cs
  | .mac => Address.isMac cs

/-- The first of some shapes that a text is of. -/
def Shape.firstOf? (shapes : List Shape) (text : String) : Option Shape :=
  shapes.find? fun shape => shape.recognizes text.toList

/-- The shape of a text. -/
def Shape.ofText? (text : String) : Option Shape :=
  firstOf? all text

end PatternSql
