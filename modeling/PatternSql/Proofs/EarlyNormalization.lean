import PatternSql.Proofs.Dependence
import PatternSql.Proofs.Normalization

/-!
# Normalising before compiling

The literals that a pattern compares with times may as well be milliseconds from the start.
`Pattern.normalized` puts them in place of the timestamps, and the predicate stays the same.

Two things are behind this.  What a literal is normalised to is its own normal form
(`Temporal.normalize_of_normalize`), so compilation finds the same milliseconds again.  And
the literal of a comparison is used as it stands only for references, whose shape decides on
the columns; a field that holds times is never a reference (`not_isReference_of_isTemporal`).
-/

namespace PatternSql

namespace Temporal

open Literal

mutual

/-- A literal whose scalars are integers is its own normal form. -/
theorem normalize_of_isNormal (literal : Literal) (h : literal.IsNormal) :
    normalize literal = .ok literal := by
  cases literal with
  | boolean value => simp [IsNormal, scalars] at h
  | integer value => rfl
  | float value => simp [IsNormal, scalars] at h
  | string text => simp [IsNormal, scalars] at h
  | set members =>
    rw [normalize, normalizeList_of_isNormal members fun member hmember => h.of_mem hmember]
    rfl

/-- Literals whose scalars are integers are their own normal forms. -/
theorem normalizeList_of_isNormal (members : List Literal)
    (h : ∀ member ∈ members, member.IsNormal) : normalizeList members = .ok members := by
  cases members with
  | nil => rfl
  | cons member rest =>
    rw [List.forall_mem_cons] at h
    rw [normalizeList, normalize_of_isNormal member h.1, normalizeList_of_isNormal rest h.2]
    rfl

end

/-- What a literal is normalised to is its own normal form. -/
lemma normalize_of_normalize {literal result : Literal} (h : normalize literal = .ok result) :
    normalize result = .ok result :=
  normalize_of_isNormal result (isNormal_of_normalize literal h)

/-- A field that holds times is not told apart by shape. -/
lemma not_isReference_of_isTemporal {name : String} (h : isTemporal name = true) :
    isReference name = false := by
  have hnames : ∀ name ∈ fieldNames, isReference name = false := by decide
  exact hnames name (List.contains_iff_mem.1 h)

end Temporal

open Temporal

/-- A comparison with its literal as milliseconds where the field holds times; a literal that
cannot be normalised stays as it is. -/
def Comparison.normalized (test : Comparison) : Comparison :=
  match test.field? with
  | some field =>
    if isTemporal field.name then
      { test with value := (Temporal.normalize test.value).toOption.getD test.value }
    else test
  | none => test

/-- A pattern with the literals of all fields that hold times as milliseconds. -/
def Pattern.normalized (pattern : Pattern) : Pattern :=
  pattern.mapTests Comparison.normalized

/-- A comparison of a field that holds times, with its literal as milliseconds. -/
lemma Comparison.normalized_of_isTemporal {test : Comparison} {field : Field} {literal : Literal}
    (hfield : test.field? = some field) (htemporal : isTemporal field.name = true)
    (hliteral : Temporal.normalize test.value = .ok literal) :
    test.normalized = { test with value := literal } := by
  unfold normalized
  simp only [hfield, htemporal, if_true, hliteral, Except.toOption, Option.getD_some]

/-- A comparison of any other field stays as it is. -/
lemma Comparison.normalized_of_not_isTemporal {test : Comparison}
    (h : ∀ field, test.field? = some field → isTemporal field.name = false) :
    test.normalized = test := by
  unfold normalized
  cases hfield : test.field? with
  | none => rfl
  | some field => simp [h field hfield]

namespace DataSource

variable {source : DataSource}

/-- A comparison compiles alike before and after its literal is normalised. -/
lemma comparisonClause_normalized {test : Comparison}
    (h : ∀ field, test.field? = some field → isTemporal field.name = true →
      ∃ literal, Temporal.normalize test.value = .ok literal) :
    source.comparisonClause test.normalized = source.comparisonClause test := by
  by_cases htemporal : ∃ field, test.field? = some field ∧ isTemporal field.name = true
  · obtain ⟨field, hfield, htime⟩ := htemporal
    obtain ⟨literal, hliteral⟩ := h field hfield htime
    have hnormal := normalize_of_normalize hliteral
    have hreference := not_isReference_of_isTemporal htime
    have hfield' : ({ test with value := literal } : Comparison).field? = some field := hfield
    rw [Comparison.normalized_of_isTemporal hfield htime hliteral]
    -- neither side looks at its literal except through the normal form
    unfold comparisonClause
    simp only [hfield, hfield', literalFor, htime, if_true, hliteral, hnormal, tests, hreference]
    rfl
  · rw [Comparison.normalized_of_not_isTemporal]
    intro field hfield
    by_contra htime
    exact htemporal ⟨field, hfield, by simpa using htime⟩

/-- Where every literal that is compared with times can be normalised, doing so beforehand changes
neither the predicate of a pattern nor its fault. -/
theorem predicate_normalized {pattern : Pattern}
    (h : ∀ test field, .comparison test ∈ pattern.subpatterns → test.field? = some field →
      isTemporal field.name = true → ∃ literal, Temporal.normalize test.value = .ok literal) :
    source.predicate pattern.normalized = source.predicate pattern := by
  have hclause : source.clause pattern none = source.clause pattern.normalized none := by
    refine clause_eq_clause_mapTests ?_ (fun _ _ _ _ => rfl) (.inl ⟨rfl, rfl⟩)
    intro test htest
    exact (comparisonClause_normalized fun field => h test field htest).symm
  rw [predicate, predicate, hclause]

/-- A file that was not created at certain times, or one of a name. -/
def datedPattern (value : Literal) : Pattern :=
  .combined .or (.comparison ⟨"file:created", .isIn, value, true⟩) (nameIs "evil")

/-- Three times, two of them as timestamps. -/
def writtenTimes : Literal :=
  .set [.string "2020-01-01T00:00:00Z", .set [.integer 5, .string "t'2020-01-02T00:00:00Z'"]]

/-- The three times in milliseconds. -/
def countedTimes : Literal :=
  .set [.integer 1577836800000, .set [.integer 5, .integer 1577923200000]]

/-- The times have milliseconds. -/
lemma normalize_writtenTimes : Temporal.normalize writtenTimes = .ok countedTimes := by
  have hfirst : millis "2020-01-01T00:00:00Z" = .ok 1577836800000 := by decide +kernel
  have hsecond : millis "t'2020-01-02T00:00:00Z'" = .ok 1577923200000 := by decide +kernel
  simp only [writtenTimes, countedTimes, Temporal.normalize, normalizeList, hfirst, hsecond,
    Except.map]
  rfl

/-- Three times, written or counted, give the same predicate. -/
theorem predicate_normalized_datedPattern :
    (datedPattern writtenTimes).normalized = datedPattern countedTimes ∧
      (DataSource.sample .last).predicate (datedPattern countedTimes) =
        (DataSource.sample .last).predicate (datedPattern writtenTimes) := by
  have hcreated (value : Literal) : Comparison.field? ⟨"file:created", .isIn, value, true⟩ =
      some ⟨"file", "created"⟩ := by
    have hpath : Field.ofPath? "file:created" = some ⟨"file", "created"⟩ := by decide
    exact hpath
  have htemporal : isTemporal "created" = true ∧ isTemporal "name" = false := by decide
  have hnormalized : (datedPattern writtenTimes).normalized = datedPattern countedTimes := by
    simp [Pattern.normalized, datedPattern, nameIs, Pattern.mapTests, Comparison.normalized,
      hcreated, field?_nameTest, htemporal, normalize_writtenTimes, Except.toOption]
  refine ⟨hnormalized, ?_⟩
  rw [← hnormalized]
  refine predicate_normalized ?_
  intro test field htest hfield htime
  simp only [datedPattern, nameIs, Pattern.subpatterns, List.mem_cons, List.mem_append,
    reduceCtorEq, Pattern.comparison.injEq, List.not_mem_nil, or_false, false_or] at htest
  rcases htest with rfl | rfl
  · exact ⟨countedTimes, normalize_writtenTimes⟩
  · obtain rfl := Option.some.inj ((field?_nameTest "evil").symm.trans hfield)
    simp [htemporal] at htime

end DataSource

end PatternSql
