import PatternSql.Double.Basic

/-!
# JSON values

A value of JSON.  Objects keep their members in the order of the text, repeated
names included, because some readers of a value refuse a repeated name and others
take the last one.
-/

namespace PatternSql

/-- A number: an integer written without point and exponent, or any other number as the double
that it denotes. -/
inductive Number where
  | int (value : Int)
  | double (value : Double)
deriving DecidableEq

/-- A JSON value. -/
inductive Json where
  | null
  | bool (value : Bool)
  | number (value : Number)
  | string (value : String)
  | array (items : List Json)
  | object (members : List (String × Json))

namespace Json

/-- The text of a string. -/
def string? : Json → Option String
  | .string value => some value
  | _ => none

/-- The value of a Boolean. -/
def bool? : Json → Option Bool
  | .bool value => some value
  | _ => none

/-- The value of an integer. -/
def int? : Json → Option Int
  | .number (.int value) => some value
  | _ => none

/-- The items of an array. -/
def items? : Json → Option (List Json)
  | .array items => some items
  | _ => none

/-- The members of an object. -/
def members? : Json → Option (List (String × Json))
  | .object members => some members
  | _ => none

/-- The value of the first member of a name. -/
def get? (value : Json) (name : String) : Option Json :=
  value.members?.bind fun members => members.lookup name

/-- The texts in an array that holds nothing but strings. -/
def strings? (value : Json) : Option (List String) :=
  value.items?.bind fun items => items.mapM string?

/-! ### Cases without data -/

/-- Whether a value is `null`. -/
def isNull : Json → Bool
  | .null => true
  | _ => false

/-- Whether a value carries nothing: `null` or an object without members. -/
def isUnit : Json → Bool
  | .null => true
  | .object [] => true
  | _ => false

/-- The name of a case without data: a string, or an object with that one name over an empty
payload. -/
def caseName? (isEmpty : Json → Bool) : Json → Option String
  | .string name => some name
  | .object [(name, payload)] => if isEmpty payload then some name else none
  | _ => none

/-! ### Nesting -/

mutual

/-- How many brackets are open at the deepest place of a value. -/
def depth : Json → Nat
  | .array items => itemsDepth items + 1
  | .object members => membersDepth members + 1
  | _ => 0

/-- The greatest depth among items. -/
def itemsDepth : List Json → Nat
  | [] => 0
  | item :: rest => max item.depth (itemsDepth rest)

/-- The greatest depth among the values of members. -/
def membersDepth : List (String × Json) → Nat
  | [] => 0
  | member :: rest => max member.2.depth (membersDepth rest)

end

end Json

end PatternSql
