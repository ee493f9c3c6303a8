import PatternSql.Double.Decimal
import PatternSql.Json.Basic
import PatternSql.Text.Integer

/-!
# Literals

The values that a pattern compares with: Booleans, integers of 64 bits, doubles,
strings, and sets of literals.  A literal has a display text, in which strings stand
as they are, and a JSON form, in which every kind is told by the kind of its value.

The literals are those that JSON can give.  Its numbers denote finite doubles, so no literal is an
infinity or not a number.
-/

namespace PatternSql

/-- A value that a pattern compares with. -/
inductive Literal where
  | boolean (value : Bool)
  | integer (value : Int64)
  /-- A finite double. -/
  | float (value : Double)
  | string (value : String)
  | set (members : List Literal)

namespace Literal

/-! ### Display text -/

mutual

/-- The display text of a literal: a set lists its members between parentheses. -/
def display : Literal → String
  | .boolean true => "true"
  | .boolean false => "false"
  | .integer value => Text.ofInt value.toInt
  | .float value => String.ofList value.text
  | .string value => value
  | .set members => "(" ++ displayList members ++ ")"

/-- The display texts of literals, with a comma and a space between them. -/
def displayList : List Literal → String
  | [] => ""
  | [member] => member.display
  | member :: rest => member.display ++ ", " ++ displayList rest

end

/-! ### JSON form -/

/-- The literal of a number: an integer when it fits 64 bits with a sign, else the nearest
double. -/
def ofNumber? : Number → Option Literal
  | .int value =>
    if Int64.minValue.toInt ≤ value ∧ value ≤ Int64.maxValue.toInt then
      some (.integer (Int64.ofInt value))
    else (Double.ofInt? value).map .float
  | .double value => some (.float value)

mutual

/-- Read a literal; `null` and objects denote none. -/
def ofJson? : Json → Option Literal
  | .bool value => some (.boolean value)
  | .number value => ofNumber? value
  | .string value => some (.string value)
  | .array items => (ofJsonList? items).map .set
  | .null => none
  | .object _ => none

/-- Read every item of an array. -/
def ofJsonList? : List Json → Option (List Literal)
  | [] => some []
  | item :: rest =>
    (ofJson? item).bind fun member => (ofJsonList? rest).map (member :: ·)

end

mutual

/-- The JSON form of a literal. -/
def toJson : Literal → Json
  | .boolean value => .bool value
  | .integer value => .number (.int value.toInt)
  | .float value => .number (.double value)
  | .string value => .string value
  | .set members => .array (toJsonList members)

/-- The JSON forms of literals. -/
def toJsonList : List Literal → List Json
  | [] => []
  | member :: rest => member.toJson :: toJsonList rest

end

/-- The number of an integer of 64 bits is this integer. -/
theorem ofNumber?_integer (value : Int64) :
    ofNumber? (.int value.toInt) = some (.integer value) := by
  have hlow := value.minValue_le_toInt
  have hhigh := value.toInt_le
  rw [ofNumber?, if_pos ⟨hlow, hhigh⟩, Int64.ofInt_toInt]

mutual

/-- Reading undoes writing. -/
theorem ofJson?_toJson (literal : Literal) : ofJson? literal.toJson = some literal := by
  cases literal with
  | boolean value => rw [toJson, ofJson?]
  | integer value => rw [toJson, ofJson?, ofNumber?_integer]
  | float value => rw [toJson, ofJson?, ofNumber?]
  | string value => rw [toJson, ofJson?]
  | set members => rw [toJson, ofJson?, ofJsonList?_toJsonList members, Option.map_some]

/-- Reading undoes writing, member by member. -/
theorem ofJsonList?_toJsonList (members : List Literal) :
    ofJsonList? (toJsonList members) = some members := by
  cases members with
  | nil => rw [toJsonList, ofJsonList?]
  | cons member rest =>
    rw [toJsonList, ofJsonList?, ofJson?_toJson member, ofJsonList?_toJsonList rest]
    rfl

end

end Literal

end PatternSql
