import PatternSql.Pattern.Literal
import PatternSql.Pattern.Operator
import PatternSql.Text.Split

/-!
# Patterns

A pattern is a tree: comparisons of one field with one literal at the leaves, Boolean
combinations of comparisons, observations, combinations of observations, and time
qualifiers.  Every kind of node may stand below every other.
-/

namespace PatternSql

/-- A field of a kind of object. -/
structure Field where
  objectType : String
  name : String
deriving DecidableEq

/-- The field of an object path, cut at the first colon. -/
def Field.ofPath? (path : String) : Option Field :=
  (Text.cutFirst? ':' path.toList).map fun parts =>
    { objectType := String.ofList parts.1, name := String.ofList parts.2 }

/-- A comparison of one field with one literal. -/
structure Comparison where
  /-- The object type and the field, divided by a colon. -/
  path : String
  comparator : Comparator
  value : Literal
  /-- Whether the comparison is to fail. -/
  negated : Bool

/-- The field that a comparison is about, when its path has a colon. -/
def Comparison.field? (comparison : Comparison) : Option Field :=
  Field.ofPath? comparison.path

/-- The text of a time qualifier, such as `START t'…' STOP t'…'`. -/
structure Qualifier where
  text : String
deriving DecidableEq

/-- A pattern. -/
inductive Pattern where
  /-- One comparison. -/
  | comparison (test : Comparison)
  /-- Two patterns under a connective between comparisons. -/
  | combined (connective : Connective) (left right : Pattern)
  /-- An observation of what a pattern describes. -/
  | observation (inner : Pattern)
  /-- Two patterns under a connective between observations. -/
  | combinedObservation (connective : ObservationConnective) (left right : Pattern)
  /-- A pattern within a time range. -/
  | qualified (inner : Pattern) (qualifier : Qualifier)

/-- A path with a colon names the type before the first colon and the field after it. -/
theorem Field.ofPath?_eq_some_iff {path : String} {field : Field} :
    Field.ofPath? path = some field ↔
      path = field.objectType ++ ":" ++ field.name ∧ ':' ∉ field.objectType.toList := by
  simp only [Field.ofPath?, Option.map_eq_some_iff, Prod.exists, Text.cutFirst?_eq_some_iff]
  constructor
  · rintro ⟨before, after, ⟨hpath, hfree⟩, rfl⟩
    refine ⟨?_, by simpa using hfree⟩
    rw [← String.toList_inj]
    simp [hpath]
  · rintro ⟨rfl, hfree⟩
    exact ⟨field.objectType.toList, field.name.toList, ⟨by simp, hfree⟩, by simp⟩

/-- A path names no field exactly when it has no colon. -/
theorem Field.ofPath?_eq_none_iff {path : String} :
    Field.ofPath? path = none ↔ ':' ∉ path.toList := by
  rw [Field.ofPath?, Option.map_eq_none_iff, Text.cutFirst?_eq_none_iff]

end PatternSql
