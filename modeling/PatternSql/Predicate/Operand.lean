import PatternSql.Pattern.Basic
import PatternSql.Text.Join

/-!
# Operands

A literal is written as the operand of a comparator.  In strings the backslash, both
quotes and both parentheses stand after a backslash; other literals stand as they are
displayed.  Equality takes the operand between single quotes, likeness between
wildcards as well, and matching turns the anchors of a regular expression into the
absence of wildcards.  A set after `In` becomes a disjunction of its members.
-/

namespace PatternSql

namespace Operand

/-- Whether a character of a string is written after a backslash. -/
def isSpecial (c : Char) : Bool :=
  c = '\x5c' || c = '\x27' || c = '\x22' || c = '(' || c = ')'

/-- A string with its special characters after backslashes. -/
def escapeChars (cs : List Char) : List Char :=
  cs.flatMap fun c => if isSpecial c then ['\x5c', c] else [c]

/-- The characters of a literal: a string with escapes, any other literal as displayed. -/
def escapedChars : Literal → List Char
  | .string value => escapeChars value.toList
  | literal => literal.display.toList

/-- The text of a literal: a string with escapes, any other literal as displayed. -/
def escaped (literal : Literal) : String :=
  String.ofList (escapedChars literal)

/-- Without a leading `^`, or after a wildcard when there is none. -/
def openStart : List Char → List Char
  | '^' :: rest => rest
  | cs => '.' :: '*' :: cs

/-- Without a trailing `$`, or before a wildcard when there is none. -/
def openEnd (cs : List Char) : List Char :=
  if cs.getLast? = some '$' then cs.dropLast else cs ++ ['.', '*']

/-- A text between single quotes. -/
def quoted (text : String) : String :=
  "'" ++ text ++ "'"

/-- The texts that stand for a literal in a disjunction. -/
def alternatives : Literal → List String
  | .set members => members.map escaped
  | literal => [escaped literal]

end Operand

open Operand in
/-- A literal as the operand of a comparator. -/
def Comparator.operand (comparator : Comparator) (literal : Literal) : String :=
  match comparator with
  | .equal => quoted (escaped literal)
  | .notEqual => quoted (escaped literal)
  | .like => quoted ("%" ++ escaped literal ++ "%")
  | .matching => quoted (String.ofList (openEnd (openStart (escapedChars literal))))
  | .isIn => "(" ++ Text.join " OR " (alternatives literal) ++ ")"
  | _ => escaped literal

end PatternSql
