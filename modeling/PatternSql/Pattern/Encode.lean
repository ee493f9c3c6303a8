import PatternSql.Pattern.Basic

/-!
# Patterns as JSON

The canonical JSON form of a pattern: every node is an object, its kind first and
then its parts in a fixed order, and a comparison always says whether it is negated.
-/

namespace PatternSql

/-- The kinds of nodes of a pattern. -/
inductive NodeKind where
  | comparison
  | combined
  | observation
  | combinedObservation
  | qualified
deriving DecidableEq

namespace NodeKind

/-- The kinds in the order in which they are numbered. -/
def all : List NodeKind :=
  [.comparison, .combined, .observation, .combinedObservation, .qualified]

/-- The name in a written pattern. -/
def name : NodeKind → String
  | .comparison => "comparison"
  | .combined => "combined_comparison"
  | .observation => "observation"
  | .combinedObservation => "combined_observation"
  | .qualified => "qualified"

/-- The kind of a name. -/
def ofName? (name : String) : Option NodeKind :=
  all.find? fun kind => kind.name == name

/-- The names of a node's parts, in the order in which they are written. -/
def partNames : NodeKind → List String
  | .comparison => ["object_path", "comparator", "value", "negated"]
  | .combined => ["left", "right", "operator"]
  | .observation => ["comparison"]
  | .combinedObservation => ["left", "right", "operator"]
  | .qualified => ["inner", "qualifier"]

/-- A kind of node is found under its own name. -/
theorem ofName?_name (kind : NodeKind) : ofName? kind.name = some kind := by
  cases kind <;> decide

/-- No part of a node goes by the name of its kind. -/
theorem type_notMem_partNames (kind : NodeKind) : "type" ∉ kind.partNames := by
  cases kind <;> decide

end NodeKind

namespace Pattern

/-- The object of a node, from the values of its parts in order. -/
def nodeObject (kind : NodeKind) (parts : List Json) : Json :=
  .object (("type", .string kind.name) :: kind.partNames.zip parts)

/-- The JSON form of a pattern. -/
def toJson : Pattern → Json
  | .comparison test =>
    nodeObject .comparison
      [.string test.path, .string test.comparator.name, test.value.toJson, .bool test.negated]
  | .combined connective left right =>
    nodeObject .combined [left.toJson, right.toJson, .string connective.name]
  | .observation inner => nodeObject .observation [inner.toJson]
  | .combinedObservation connective left right =>
    nodeObject .combinedObservation [left.toJson, right.toJson, .string connective.name]
  | .qualified inner qualifier =>
    nodeObject .qualified [inner.toJson, .string qualifier.text]

end Pattern

end PatternSql
