import PatternSql.Proofs.Nodes
import PatternSql.Query.Select

/-!
# Applicable patterns

When the predicate of a pattern is empty.  A comparison is inapplicable when no column of
the data source answers to it, and a single inapplicable comparison empties the whole
predicate: combinations of either connective lose their clause with either part, negation
and time ranges are put on clauses only.  Conversely the test of a column is never written
as nothing, so that a pattern without an inapplicable comparison has a text.

Such a text can still be blank, when columns, words and operands all are.  It is not when
the names of columns are visible.
-/

namespace PatternSql

/-- Whether a text has a character that is not blank. -/
def Text.IsVisible (text : String) : Prop :=
  ∃ c ∈ text.toList, Text.isBlank c = false

/-- A text is blank exactly when it is not visible. -/
lemma Text.isBlankText_eq_false_iff {text : String} :
    Text.isBlankText text = false ↔ Text.IsVisible text := by
  simp [Text.isBlankText, Text.IsVisible]

/-- Whether a text is visible can be decided. -/
instance (text : String) : Decidable (Text.IsVisible text) :=
  decidable_of_iff _ Text.isBlankText_eq_false_iff

namespace DataSource

variable {source : DataSource}

/-- A comparison that no column answers to: its field is no reference and has no column, or it is
a reference and its value has no shape, or one that all columns of the field reject. -/
def Inapplicable (source : DataSource) (test : Comparison) : Prop :=
  ∃ field, test.field? = some field ∧
    (isReference field.name = false ∧ source.mapping.columns field = [] ∨
      isReference field.name = true ∧
        (Shape.ofText? test.value.display = none ∨
          ∃ shape, Shape.ofText? test.value.display = some shape ∧
            ∀ column ∈ source.mapping.columns field,
              source.registry.accepts column shape = false))

/-- A comparison is inapplicable exactly when it has no applicable column. -/
lemma inapplicable_iff {test : Comparison} {field : Field} (hfield : test.field? = some field) :
    source.Inapplicable test ↔ source.applicable field test.value = [] := by
  unfold Inapplicable applicable
  simp only [hfield, Option.some.injEq, exists_eq_left']
  cases hreference : isReference field.name with
  | false => simp
  | true =>
    simp only [Registry.route]
    cases Shape.ofText? test.value.display with
    | none => simp
    | some shape => simp [List.filter_eq_nil_iff]

/-- A comparison has no clause exactly when it has no applicable column. -/
lemma leafClause_eq_none_iff {test : Comparison} {field : Field} {word : String}
    {literal : Literal} :
    source.leafClause test field word literal = none ↔
      source.applicable field test.value = [] := by
  unfold leafClause fanOut
  split <;> simp [Clause.anyOf?_eq_none_iff]

/-- A pattern that compiles lacks a clause exactly when one of its comparisons is inapplicable. -/
theorem clause_eq_none_iff {pattern : Pattern} {qualifier : Option Qualifier}
    {result : Option Clause} (h : source.clause pattern qualifier = .ok result) :
    result = none ↔
      ∃ test, .comparison test ∈ pattern.subpatterns ∧ source.Inapplicable test := by
  induction pattern generalizing qualifier result with
  | comparison test =>
    obtain ⟨inner, hinner, hrestrict⟩ := clause_comparison_eq_ok_iff.1 h
    obtain ⟨field, word, literal, hfield, hword, hliteral, rfl⟩ :=
      comparisonClause_eq_ok_iff.1 hinner
    rw [eq_none_iff_of_restrict hrestrict, leafClause_eq_none_iff, ← inapplicable_iff hfield]
    simp [Pattern.subpatterns]
  | combined connective left right ihLeft ihRight =>
    obtain ⟨word, first, second, hword, hfirst, hsecond, hcases⟩ :=
      clause_combined_eq_ok_iff.1 h
    have hnone : result = none ↔ combine (connective == .and) word first second = none := by
      rcases hcases with ⟨hcombine, rfl⟩ | ⟨inner, hcombine, hrestrict⟩
      · simp [hcombine]
      · rw [eq_none_iff_of_restrict hrestrict, hcombine]
    rw [hnone, combine_eq_none_iff, ihLeft hfirst, ihRight hsecond]
    simp [Pattern.subpatterns, or_and_right, exists_or]
  | observation inner ih =>
    rw [ih h]
    simp [Pattern.subpatterns]
  | combinedObservation connective left right ihLeft ihRight =>
    obtain ⟨word, first, second, hword, hfirst, hsecond, rfl⟩ :=
      clause_combinedObservation_eq_ok_iff.1 h
    rw [combine_eq_none_iff, ihLeft hfirst, ihRight hsecond]
    simp [Pattern.subpatterns, or_and_right, exists_or]
  | qualified inner own ih =>
    rw [ih h]
    simp [Pattern.subpatterns]

end DataSource

/-! ### Visible texts -/

/-- A clause built from tests with visible columns is visible. -/
lemma Clause.BuiltFrom.isVisible {source : DataSource} {pattern : Pattern} {clause : Clause}
    (hcolumns : ∀ field, ∀ column ∈ source.mapping.columns field, Text.IsVisible column)
    (h : clause.BuiltFrom source pattern) : Text.IsVisible clause.text := by
  induction h with
  | test h =>
    obtain ⟨test, field, literal, _, _, _, _, hcolumn, _⟩ := h
    obtain ⟨c, hc, hblank⟩ := hcolumns field _ hcolumn
    exact ⟨c, by simp [Clause.text, hc], hblank⟩
  | within range => exact ⟨'(', by simp [Clause.text], by decide⟩
  | join _ _ _ ihLeft _ =>
    obtain ⟨c, hc, hblank⟩ := ihLeft
    exact ⟨c, by simp [Clause.text, hc], hblank⟩
  | group _ _ => exact ⟨'(', by simp [Clause.text], by decide⟩
  | negation _ _ => exact ⟨'(', by simp [Clause.text], by decide⟩

namespace DataSource

variable {source : DataSource}

/-- The predicate of a pattern is empty exactly when one of its comparisons is inapplicable; and
if the names of all columns are visible, these are also the patterns for which there is no
statement. -/
theorem predicate_eq_empty_iff_inapplicable {pattern : Pattern} {text : String}
    (htext : source.predicate pattern = .ok text) :
    (text = "" ↔
      ∃ test, .comparison test ∈ pattern.subpatterns ∧ source.Inapplicable test) ∧
    ((∀ field, ∀ column ∈ source.mapping.columns field, Text.IsVisible column) → ∀ table,
      (Select.statement? table text = none ↔
        ∃ test, .comparison test ∈ pattern.subpatterns ∧ source.Inapplicable test)) := by
  obtain ⟨result, hresult, rfl⟩ := predicate_eq_ok_iff.1 htext
  have hempty := Clause.textOf_eq_empty_iff.trans (clause_eq_none_iff hresult)
  refine ⟨hempty, fun hcolumns table => ?_⟩
  rw [← hempty]
  cases result with
  | none => simp [Select.statement?, Clause.textOf, Text.isBlankText]
  | some clause =>
    have hvisible := (builtFrom_of_clause hresult).isVisible hcolumns
    have hblank := Text.isBlankText_eq_false_iff.2 hvisible
    simp [Select.statement?, Clause.textOf, hblank, Clause.text_ne_empty]

/-- The columns of the sample event table are visible. -/
lemma isVisible_of_mem_sample_columns (scope : Scope) (field : Field) :
    ∀ column ∈ (DataSource.sample scope).mapping.columns field, Text.IsVisible column := by
  refine Mapping.forall_mem_columns ?_ field
  have hentries : ∀ entry ∈ Mapping.sample.fields.entries, ∀ columns ∈ entry.2.entries,
      ∀ column ∈ columns.2, Text.IsVisible column := by
    decide +kernel
  exact hentries

/-- An address in a time range, or a reference that is not a given text.  The text is no
address, so that the reference has nowhere to go. -/
def unroutedPattern : Pattern :=
  .qualified
    (.observation (.combined .or (.comparison hostTest)
      (.comparison ⟨"network-traffic:src_ref.value", .equal, .string "gateway", true⟩)))
    dayQualifier

/-- The reference that has nowhere to go leaves the whole pattern without a predicate, and every
table without a statement. -/
theorem predicate_eq_empty_iff_inapplicable_sample :
    (DataSource.sample .last).predicate unroutedPattern = .ok "" ∧
      (∃ test, .comparison test ∈ unroutedPattern.subpatterns ∧
        (DataSource.sample .last).Inapplicable test) ∧
      ∀ table, Select.statement? table "" = none := by
  have htext : (DataSource.sample .last).predicate unroutedPattern = .ok "" := by
    decide +kernel
  obtain ⟨hempty, hstatement⟩ := predicate_eq_empty_iff_inapplicable htext
  have hinapplicable := hempty.1 rfl
  refine ⟨htext, hinapplicable, fun table => ?_⟩
  exact (hstatement (isVisible_of_mem_sample_columns .last) table).2 hinapplicable

end DataSource

end PatternSql
