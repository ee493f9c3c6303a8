import PatternSql.Fault
import PatternSql.Pattern.Basic
import PatternSql.Time.Timestamp

/-!
# Times in patterns

Certain fields hold times.  A literal compared with such a field is normalised to
milliseconds since 1970: strings are read as timestamps, integers are taken to be
milliseconds already, and sets are normalised member by member.

A time qualifier carries its start and its stop between single quotes.
-/

namespace PatternSql

namespace Temporal

/-- The fields that hold times. -/
def fieldNames : List String :=
  ["created", "modified", "accessed", "ctime", "mtime", "atime", "created_time", "modified_time",
    "start", "end"]

/-- Whether a field holds times. -/
def isTemporal (name : String) : Bool :=
  fieldNames.contains name

/-- The milliseconds since 1970 of a timestamp. -/
def millis (text : String) : Except Fault Int :=
  match Timestamp.millis? text with
  | some value => .ok value
  | none => .error (.malformedTimestamp text)

mutual

/-- A literal with its timestamps as milliseconds. -/
def normalize : Literal → Except Fault Literal
  | .string text => (millis text).map fun value => .integer (Int64.ofInt value)
  | .set members => (normalizeList members).map .set
  | .integer value => .ok (.integer value)
  | .boolean value => .error (.malformedTimestamp (Literal.boolean value).display)
  | .float value => .error (.malformedTimestamp (Literal.float value).display)

/-- Literals with their timestamps as milliseconds, or the first fault. -/
def normalizeList : List Literal → Except Fault (List Literal)
  | [] => .ok []
  | member :: rest =>
    match normalize member with
    | .error fault => .error fault
    | .ok first => (normalizeList rest).map (first :: ·)

end

/-- The literal that a field is compared with. -/
def literalFor (fieldName : String) (value : Literal) : Except Fault Literal :=
  if isTemporal fieldName then normalize value else .ok value

end Temporal

/-- A range of times, in milliseconds since 1970. -/
structure TimeRange where
  start : Int
  stop : Int
deriving DecidableEq

/-- The time range of a qualifier: the first and the second of the texts between single quotes. -/
def Qualifier.range (qualifier : Qualifier) : Except Fault TimeRange :=
  match Text.pieces '\x27' qualifier.text.toList with
  | _ :: start :: _ :: stop :: _ => do
    let start ← Temporal.millis (String.ofList start)
    let stop ← Temporal.millis (String.ofList stop)
    .ok { start, stop }
  | _ => .error (.malformedQualifier qualifier.text)

end PatternSql
