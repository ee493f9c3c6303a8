import PatternSql.Json.Basic

/-!
# Comparators and connectives

The operators of a pattern: comparators between a field and a literal, connectives
between comparisons, and connectives between observations.  Each has a name, under
which it stands in a written pattern, and a key, under which a data source gives the
word for it.
-/

namespace PatternSql

/-- How a field is compared with a literal. -/
inductive Comparator where
  | equal
  | notEqual
  | greaterThan
  | greaterThanOrEqual
  | lessThan
  | lessThanOrEqual
  | like
  | isIn
  | matching
  | isSubset
  | isSuperset
deriving DecidableEq

namespace Comparator

/-- Every comparator. -/
def all : List Comparator :=
  [.equal, .notEqual, .greaterThan, .greaterThanOrEqual, .lessThan, .lessThanOrEqual, .like,
    .isIn, .matching, .isSubset, .isSuperset]

/-- The name in a written pattern. -/
def name : Comparator → String
  | .equal => "Equal"
  | .notEqual => "NotEqual"
  | .greaterThan => "GreaterThan"
  | .greaterThanOrEqual => "GreaterThanOrEqual"
  | .lessThan => "LessThan"
  | .lessThanOrEqual => "LessThanOrEqual"
  | .like => "Like"
  | .isIn => "In"
  | .matching => "Matches"
  | .isSubset => "IsSubSet"
  | .isSuperset => "IsSuperSet"

/-- The comparator of a name. -/
def ofName? (name : String) : Option Comparator :=
  all.find? fun comparator => comparator.name == name

/-- The key of the data source's word for a comparator. -/
def key (comparator : Comparator) : String :=
  "ComparisonComparators." ++ comparator.name

/-- The list of comparators has them all. -/
theorem mem_all (comparator : Comparator) : comparator ∈ all := by
  cases comparator <;> decide

/-- A comparator is found under its own name. -/
theorem ofName?_name (comparator : Comparator) : ofName? comparator.name = some comparator := by
  cases comparator <;> decide

end Comparator

/-- How two comparisons are combined. -/
inductive Connective where
  | and
  | or
deriving DecidableEq

namespace Connective

/-- Every connective between comparisons. -/
def all : List Connective := [.and, .or]

/-- The name in a written pattern. -/
def name : Connective → String
  | .and => "And"
  | .or => "Or"

/-- The connective of a name. -/
def ofName? (name : String) : Option Connective :=
  all.find? fun connective => connective.name == name

/-- The key of the data source's word for a connective. -/
def key (connective : Connective) : String :=
  "ComparisonExpressionOperators." ++ connective.name

/-- A connective between comparisons is found under its own name. -/
theorem ofName?_name (connective : Connective) : ofName? connective.name = some connective := by
  cases connective <;> decide

end Connective

/-- How two observations are combined. -/
inductive ObservationConnective where
  | and
  | or
  | followedBy
deriving DecidableEq

namespace ObservationConnective

/-- Every connective between observations. -/
def all : List ObservationConnective := [.and, .or, .followedBy]

/-- The name in a written pattern. -/
def name : ObservationConnective → String
  | .and => "And"
  | .or => "Or"
  | .followedBy => "FollowedBy"

/-- The connective of a name. -/
def ofName? (name : String) : Option ObservationConnective :=
  all.find? fun connective => connective.name == name

/-- The key of the data source's word for a connective. -/
def key (connective : ObservationConnective) : String :=
  "ObservationOperators." ++ connective.name

/-- A connective between observations is found under its own name. -/
theorem ofName?_name (connective : ObservationConnective) :
    ofName? connective.name = some connective := by
  cases connective <;> decide

end ObservationConnective

end PatternSql
