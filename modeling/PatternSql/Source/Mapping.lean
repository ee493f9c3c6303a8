import PatternSql.KeyMap
import PatternSql.Pattern.Basic

/-!
# Mappings

What a data source offers to patterns: the columns that hold a field, in order, and
the words for operators.  A field without columns does not occur in the data source.
-/

namespace PatternSql

/-- The columns of the fields of one kind of object. -/
abbrev FieldColumns := KeyMap (List String)

/-- The columns and the operator words of a data source. -/
structure Mapping where
  /-- Object types, their fields, and the columns of these. -/
  fields : KeyMap FieldColumns
  /-- The words for operators, by key. -/
  operators : KeyMap String

namespace Mapping

/-- The columns that hold a field. -/
def columns (mapping : Mapping) (field : Field) : List String :=
  ((mapping.fields.get? field.objectType).bind (·.get? field.name)).getD []

/-- The word for the operator of a key. -/
def word? (mapping : Mapping) (key : String) : Option String :=
  mapping.operators.get? key

/-- What holds of the columns in all entries holds of the columns of every field. -/
theorem forall_mem_columns {mapping : Mapping} {motive : String → Prop}
    (h : ∀ entry ∈ mapping.fields.entries, ∀ columns ∈ entry.2.entries, ∀ column ∈ columns.2,
      motive column) (field : Field) : ∀ column ∈ mapping.columns field, motive column := by
  intro column hcolumn
  unfold columns at hcolumn
  cases hobject : mapping.fields.get? field.objectType with
  | none => simp [hobject] at hcolumn
  | some object =>
    cases hfield : object.get? field.name with
    | none => simp [hobject, hfield] at hcolumn
    | some columns =>
      rw [hobject, Option.bind_some, hfield, Option.getD_some] at hcolumn
      exact h _ (KeyMap.mem_entries_of_get? hobject) _ (KeyMap.mem_entries_of_get? hfield) _ hcolumn

/-- The columns of the sample event table. -/
def sampleFields : KeyMap FieldColumns :=
  .ofList
    [("ipv4-addr", .ofList [("value", ["source_ipaddr", "dest_ipaddr"])]),
      ("ipv6-addr", .ofList [("value", ["source_ipaddr"])]),
      ("network-traffic", .ofList
        [("src_ref.value", ["source_ipaddr"]),
          ("dst_ref.value", ["dest_ipaddr"]),
          ("src_port", ["source_port"]),
          ("dst_port", ["dest_port"]),
          ("protocols[*]", ["protocol"]),
          ("start", ["entry_time"]),
          ("end", ["entry_time"])]),
      ("file", .ofList
        [("name", ["filename"]),
          ("hashes.'SHA-256'", ["sha256hash"]),
          ("hashes.MD5", ["md5hash"]),
          ("created", ["file_created_time"])]),
      ("user-account", .ofList [("user_id", ["username"])]),
      ("process", .ofList
        [("name", ["process_name", "parent_process_name"]),
          ("pid", ["process_id"])])]

/-- The operator words of the sample event table. -/
def sampleOperators : KeyMap String :=
  .ofList
    [(Connective.and.key, "AND"),
      (Connective.or.key, "OR"),
      (Comparator.greaterThan.key, ">"),
      (Comparator.greaterThanOrEqual.key, ">="),
      (Comparator.lessThan.key, "<"),
      (Comparator.lessThanOrEqual.key, "<="),
      (Comparator.equal.key, "="),
      (Comparator.notEqual.key, "!="),
      (Comparator.like.key, "LIKE"),
      (Comparator.isIn.key, "IN"),
      (Comparator.matching.key, "~"),
      (ObservationConnective.and.key, "AND"),
      (ObservationConnective.or.key, "OR")]

/-- The mapping of the sample event table. -/
def sample : Mapping where
  fields := sampleFields
  operators := sampleOperators

end Mapping

end PatternSql
