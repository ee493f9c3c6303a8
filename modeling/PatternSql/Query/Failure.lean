/-!
# Failures of the database

The kind of a failure, told by the code that the database reports.
-/

namespace PatternSql

/-- The kind of a database failure. -/
inductive FailureKind where
  | queryParsing
  | searchDoesNotExist
  | invalidParameter
  | remoteSystemUnavailable
  | authCredentials
  | other
deriving DecidableEq

namespace FailureKind

/-- The name of a kind. -/
def name : FailureKind → String
  | .queryParsing => "query_parsing_error"
  | .searchDoesNotExist => "search_does_not_exist"
  | .invalidParameter => "invalid_parameter"
  | .remoteSystemUnavailable => "remote_system_unavailable"
  | .authCredentials => "auth_credentials"
  | .other => "module_default"

/-- The codes with a kind of their own: syntax error, undefined table, unknown database, unique
violation, no connection, refused authorization. -/
def codes : List (String × FailureKind) :=
  [("42601", .queryParsing), ("42P01", .searchDoesNotExist), ("3D000", .searchDoesNotExist),
    ("23505", .invalidParameter), ("08001", .remoteSystemUnavailable),
    ("28000", .authCredentials)]

/-- The kind of a code. -/
def ofCode (code : String) : FailureKind :=
  (codes.lookup code).getD .other

end FailureKind

end PatternSql
