import PatternSql.Text.Blank

/-!
# Select statements

The statement that asks for the records of a table under a predicate.  The table stands
between double quotes, each double quote inside its name written twice.
-/

namespace PatternSql

namespace Select

/-- The characters of a name between double quotes. -/
def identifierChars (name : List Char) : List Char :=
  '\x22' :: (name.flatMap (fun c => if c = '\x22' then ['\x22', '\x22'] else [c]) ++ ['\x22'])

/-- A name between double quotes. -/
def identifier (name : String) : String :=
  String.ofList (identifierChars name.toList)

/-- The statement for the records of a table under a predicate; there is none for a blank
predicate. -/
def statement? (table predicate : String) : Option String :=
  if Text.isBlankText predicate then none
  else some ("SELECT * FROM " ++ identifier table ++ " WHERE " ++ predicate)

end Select

end PatternSql
