/-!
# Faults of a pattern

Why a pattern has no predicate.  That a field does not occur in a data source is no
fault: such a pattern has the empty predicate.
-/

namespace PatternSql

/-- A fault of a pattern, with respect to a data source. -/
inductive Fault where
  /-- The data source has no word for the operator of this key. -/
  | unsupportedOperator (key : String)
  /-- The text is no timestamp. -/
  | malformedTimestamp (value : String)
  /-- The qualifier does not carry a quoted start and a quoted stop. -/
  | malformedQualifier (qualifier : String)
  /-- The object path has no colon. -/
  | malformedObjectPath (path : String)
deriving DecidableEq

/-- The wording of a fault. -/
def Fault.message : Fault → String
  | .unsupportedOperator key =>
    "Comparison operator " ++ key ++ " unsupported for this data source"
  | .malformedTimestamp value => "Malformed timestamp: " ++ value
  | .malformedQualifier qualifier => "Malformed START/STOP qualifier: " ++ qualifier
  | .malformedObjectPath path =>
    "Malformed object path '" ++ path ++ "', expected '<object-type>:<field>'"

end PatternSql
