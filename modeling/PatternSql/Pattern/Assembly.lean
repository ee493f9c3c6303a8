import PatternSql.Pattern.Basic

/-!
# Assembling patterns

Patterns are assembled from comparisons.  Each function makes a larger pattern of those that it is
given; the first of two becomes the left one.
-/

namespace PatternSql

/-- The comparison that a field, given by its path, holds for a value. -/
def Comparison.of (path : String) (comparator : Comparator) (value : Literal) : Comparison where
  path := path
  comparator := comparator
  value := value
  negated := false

/-- The comparison that is to fail.  A comparison that is to fail already stays as it is. -/
def Comparison.negate (test : Comparison) : Comparison :=
  { test with negated := true }

namespace Pattern

/-- The pattern of one comparison. -/
def compare (path : String) (comparator : Comparator) (value : Literal) : Pattern :=
  .comparison (.of path comparator value)

/-- Both of two patterns, between comparisons. -/
def and (left right : Pattern) : Pattern :=
  .combined .and left right

/-- One of two patterns, between comparisons. -/
def or (left right : Pattern) : Pattern :=
  .combined .or left right

/-- An observation of what a pattern describes. -/
def observe (inner : Pattern) : Pattern :=
  .observation inner

/-- Two observations under a connective. -/
def combine (left : Pattern) (connective : ObservationConnective) (right : Pattern) : Pattern :=
  .combinedObservation connective left right

/-- A pattern within the time range of a qualifier, given by its text. -/
def qualify (inner : Pattern) (text : String) : Pattern :=
  .qualified inner ⟨text⟩

end Pattern

end PatternSql
