import PatternSql.Json.Reader
import PatternSql.Pattern.Encode

/-!
# Reading patterns

A node of a pattern is written as an object with its kind under `type`, or as an
array of its kind and then its parts in order.  In an object the members may come in
any order, and members that the kind does not know are passed by; a known name that is
missing or repeated is refused, except that a comparison may leave out whether it is
negated.  Below the root a kind may also be given by its number.
-/

namespace PatternSql

/-- A part of a written node: its value, and the pattern that the value denotes below the root. -/
structure Part where
  value : Json
  node : Option Pattern

namespace Part

/-- The part of a name that stands exactly once. -/
def only? (parts : List (String × Part)) (name : String) : Option Part :=
  match parts.filter fun part => part.1 == name with
  | [part] => some part.2
  | _ => none

/-- The pattern under a name. -/
def node? (parts : List (String × Part)) (name : String) : Option Pattern :=
  (only? parts name).bind Part.node

/-- The text under a name. -/
def text? (parts : List (String × Part)) (name : String) : Option String :=
  (only? parts name).bind fun part => part.value.string?

/-- The name of a case without data under a name. -/
def caseName? (parts : List (String × Part)) (name : String) : Option String :=
  (only? parts name).bind fun part => part.value.caseName? Json.isUnit

/-- The literal under a name. -/
def literal? (parts : List (String × Part)) (name : String) : Option Literal :=
  (only? parts name).bind fun part => Literal.ofJson? part.value

/-- The truth value under a name, false when the name does not stand. -/
def flag? (parts : List (String × Part)) (name : String) : Option Bool :=
  if parts.any fun part => part.1 == name then
    (only? parts name).bind fun part => part.value.bool?
  else some false

end Part

namespace NodeKind

/-- The kind that a value names; numbers count below the root only. -/
def ofTag? (below : Bool) : Json → Option NodeKind
  | .string name => ofName? name
  | .number (.int value) => if below && 0 ≤ value then all[value.toNat]? else none
  | _ => none

end NodeKind

namespace Pattern

/-- The comparison with given parts. -/
def comparisonOfParts? (parts : List (String × Part)) : Option Pattern := do
  let path ← Part.text? parts "object_path"
  let comparator ← (Part.caseName? parts "comparator").bind Comparator.ofName?
  let value ← Part.literal? parts "value"
  let negated ← Part.flag? parts "negated"
  pure (.comparison { path, comparator, value, negated })

/-- The node of a kind with given parts. -/
def ofParts? (kind : NodeKind) (parts : List (String × Part)) : Option Pattern :=
  match kind with
  | .comparison => comparisonOfParts? parts
  | .combined => do
    let left ← Part.node? parts "left"
    let right ← Part.node? parts "right"
    let connective ← (Part.caseName? parts "operator").bind Connective.ofName?
    pure (.combined connective left right)
  | .observation => (Part.node? parts "comparison").map .observation
  | .combinedObservation => do
    let left ← Part.node? parts "left"
    let right ← Part.node? parts "right"
    let connective ← (Part.caseName? parts "operator").bind ObservationConnective.ofName?
    pure (.combinedObservation connective left right)
  | .qualified => do
    let inner ← Part.node? parts "inner"
    let text ← Part.text? parts "qualifier"
    pure (.qualified inner { text })

/-- The node written as an object. -/
def ofMembers? (below : Bool) (parts : List (String × Part)) : Option Pattern :=
  (Part.only? parts "type").bind fun tag =>
    (NodeKind.ofTag? below tag.value).bind fun kind => ofParts? kind parts

/-- The node written as an array: the kind, then the parts in order, none too many. -/
def ofItems? (below : Bool) : List Part → Option Pattern
  | [] => none
  | tag :: parts =>
    (NodeKind.ofTag? below tag.value).bind fun kind =>
      if parts.length ≤ kind.partNames.length then ofParts? kind (kind.partNames.zip parts)
      else none

mutual

/-- The pattern that a value denotes, at the root or below it. -/
def ofJsonAt? (below : Bool) : Json → Option Pattern
  | .object members => ofMembers? below (memberParts members)
  | .array items => ofItems? below (itemParts items)
  | _ => none

/-- Members of an object as parts of a node. -/
def memberParts : List (String × Json) → List (String × Part)
  | [] => []
  | (name, value) :: rest => (name, ⟨value, ofJsonAt? true value⟩) :: memberParts rest

/-- Items of an array as parts of a node. -/
def itemParts : List Json → List Part
  | [] => []
  | value :: rest => ⟨value, ofJsonAt? true value⟩ :: itemParts rest

end

/-- The pattern that a value denotes. -/
def ofJson? (value : Json) : Option Pattern :=
  ofJsonAt? false value

/-- The pattern that a JSON text denotes. -/
def read? (text : String) : Option Pattern :=
  (Json.read? text).bind ofJson?

/-! ### Members of a written node -/

/-- The members of a node's parts are read as parts under the same names. -/
theorem memberParts_zip (names : List String) (values : List Json) :
    memberParts (names.zip values) =
      names.zip (values.map fun value => ⟨value, ofJsonAt? true value⟩) := by
  induction names generalizing values with
  | nil => rfl
  | cons name names ih =>
    cases values with
    | nil => rfl
    | cons value values =>
      rw [List.zip_cons_cons, memberParts, ih, List.map_cons, List.zip_cons_cons]

/-- The kind of a written node is found under its name. -/
theorem only?_type_cons (kind : NodeKind) (tag : Part) (values : List Part) :
    Part.only? (("type", tag) :: kind.partNames.zip values) "type" = some tag := by
  have hnone : (kind.partNames.zip values).filter (fun part => part.1 == "type") = [] := by
    rw [List.filter_eq_nil_iff]
    intro part hpart heq
    have hmem := (List.of_mem_zip hpart).1
    rw [beq_iff_eq.1 heq] at hmem
    exact kind.type_notMem_partNames hmem
  simp [Part.only?, hnone]

end Pattern

end PatternSql
