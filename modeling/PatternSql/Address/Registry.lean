import PatternSql.Address.Shape
import PatternSql.KeyMap

/-!
# Columns for addresses

Some fields refer to an address of any shape, and the columns of a data source each
hold certain shapes only.  A registry says which; a comparison on such a field goes
to the columns that accept the shape of its value.
-/

namespace PatternSql

/-- The fields whose values are told apart by shape. -/
def referenceFieldNames : List String := ["src_ref.value", "dst_ref.value"]

/-- Whether a field's values are told apart by shape. -/
def isReference (name : String) : Bool :=
  referenceFieldNames.contains name

/-- The shapes that columns accept. -/
structure Registry where
  columns : KeyMap (List Shape)

namespace Registry

/-- No column accepts anything. -/
def empty : Registry where
  columns := .empty

/-- Register a column, in place of an earlier registration. -/
def register (registry : Registry) (column : String) (shapes : List Shape) : Registry where
  columns := registry.columns.insert column shapes

/-- The registry of the sample table. -/
def sample : Registry :=
  (empty.register "source_ipaddr" [.ipv4, .ipv4Cidr, .ipv6, .ipv6Cidr]).register
    "dest_ipaddr" [.ipv4, .ipv4Cidr]

/-- Whether a column accepts a shape; a column that is not registered accepts none. -/
def accepts (registry : Registry) (column : String) (shape : Shape) : Bool :=
  match registry.columns.get? column with
  | some shapes => shapes.contains shape
  | none => false

/-- The columns that accept the shape of a text, in the order given. -/
def route (registry : Registry) (columns : List String) (text : String) : List String :=
  match Shape.ofText? text with
  | some shape => columns.filter fun column => registry.accepts column shape
  | none => []

/-- A column that is registered accepts just the shapes given for it. -/
theorem accepts_register_self (registry : Registry) (column : String) (shapes : List Shape)
    (shape : Shape) :
    (registry.register column shapes).accepts column shape = shapes.contains shape := by
  simp [accepts, register]

/-- What another column accepts does not depend on a registration. -/
theorem accepts_register_of_ne (registry : Registry) {column other : String}
    (h : other ≠ column) (shapes : List Shape) (shape : Shape) :
    (registry.register column shapes).accepts other shape = registry.accepts other shape := by
  simp [accepts, register, KeyMap.get?_insert_of_ne _ h]

end Registry

end PatternSql
