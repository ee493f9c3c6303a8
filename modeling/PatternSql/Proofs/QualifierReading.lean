import PatternSql.Proofs.Applicability
import PatternSql.Proofs.Faults
import PatternSql.Proofs.Meaning

/-!
# Which qualifiers are read

A qualifier is read when a unit in its reach is restricted to its time range.  A single
comparison is restricted whether it has a clause or not, so that its qualifier is always
read.  A combination of comparisons is given up as soon as one of its parts turns out to
have no clause, and then its qualifier is not looked at.

`exists_clause_eq_ok_iff` says exactly which patterns compile: those with supported nodes,
and with a time range in each qualifier that is read.  So a malformed qualifier is
reported unless all units in its reach are combinations with an inapplicable comparison.
-/

namespace PatternSql

namespace DataSource

variable {source : DataSource}

/-- A unit that has its qualifier read: a single comparison, or a combination without an
inapplicable comparison. -/
def ReadsQualifier (source : DataSource) (unit : Pattern) : Prop :=
  (∃ test, unit = .comparison test) ∨
    ∀ test, .comparison test ∈ unit.subpatterns → ¬source.Inapplicable test

/-- A clause can be restricted exactly when its qualifier, if there is one, has a range. -/
lemma exists_restrict_eq_ok_iff {clause : Option Clause} {qualifier : Option Qualifier} :
    (∃ result, source.restrict clause qualifier = .ok result) ↔
      ∀ own, qualifier = some own → ∃ range, own.range = .ok range := by
  constructor
  · rintro ⟨result, hresult⟩ own rfl
    obtain ⟨range, hrange, _⟩ := restrict_some_eq_ok_iff.1 hresult
    exact ⟨range, hrange⟩
  · exact fun h => exists_restrict_eq_ok source h clause

/-- A combination with a clause has no inapplicable comparison, so its qualifier is read. -/
lemma readsQualifier_of_clause_eq_some {pattern : Pattern} {clause : Clause}
    (h : source.clause pattern none = .ok (some clause)) : source.ReadsQualifier pattern := by
  refine .inr fun test htest hinapplicable => ?_
  simpa using (clause_eq_none_iff h).2 ⟨test, htest, hinapplicable⟩

/-- In a pattern that compiles, each qualifier that is read has a time range. -/
lemma exists_range_of_readsQualifier {pattern : Pattern} {qualifier : Option Qualifier}
    {result : Option Clause} (h : source.clause pattern qualifier = .ok result)
    {unit : Pattern} {own : Qualifier}
    (hunit : (unit, own) ∈ source.restrictedUnits pattern qualifier)
    (hreads : source.ReadsQualifier unit) : ∃ range, own.range = .ok range := by
  induction pattern generalizing qualifier result with
  | comparison test =>
    obtain ⟨inner, _, hrestrict⟩ := clause_comparison_eq_ok_iff.1 h
    obtain ⟨own, hown, heq⟩ := List.mem_map.1 hunit
    obtain ⟨rfl, rfl⟩ := Prod.mk.inj heq
    exact exists_restrict_eq_ok_iff.1 ⟨result, hrestrict⟩ own (Option.mem_toList.1 hown)
  | combined connective left right ihLeft ihRight =>
    obtain ⟨word, first, second, _, hfirst, hsecond, hcases⟩ := clause_combined_eq_ok_iff.1 h
    rw [restrictedUnits, List.mem_append, List.mem_append] at hunit
    rcases hunit with hself | hleft | hright
    · obtain ⟨own, hown, heq⟩ := List.mem_map.1 hself
      obtain ⟨rfl, rfl⟩ := Prod.mk.inj heq
      have happlicable := hreads.resolve_left (by simp)
      rcases hcases with ⟨_, hnone⟩ | ⟨inner, _, hrestrict⟩
      · obtain ⟨test, htest, hinapplicable⟩ := (clause_eq_none_iff h).1 hnone
        exact absurd hinapplicable (happlicable test htest)
      · exact exists_restrict_eq_ok_iff.1 ⟨result, hrestrict⟩ own (Option.mem_toList.1 hown)
    · exact ihLeft hfirst hleft
    · exact ihRight hsecond hright
  | observation inner ih => exact ih h hunit
  | combinedObservation connective left right ihLeft ihRight =>
    obtain ⟨word, first, second, _, hfirst, hsecond, _⟩ :=
      clause_combinedObservation_eq_ok_iff.1 h
    rcases List.mem_append.1 hunit with hleft | hright
    · exact ihLeft hfirst hleft
    · exact ihRight hsecond hright
  | qualified inner own ih => exact ih h hunit

/-- A pattern with supported nodes, and with a time range in each qualifier that is read,
compiles. -/
lemma exists_clause_eq_ok_of_readsQualifier {pattern : Pattern} {qualifier : Option Qualifier}
    (hnodes : ∀ node ∈ pattern.subpatterns, source.Supports node)
    (hranges : ∀ unit own, (unit, own) ∈ source.restrictedUnits pattern qualifier →
      source.ReadsQualifier unit → ∃ range, own.range = .ok range) :
    ∃ result, source.clause pattern qualifier = .ok result := by
  induction pattern generalizing qualifier with
  | comparison test =>
    have htest := hnodes _ (Pattern.mem_subpatterns_self _)
    obtain ⟨inner, hinner⟩ := exists_comparisonClause_eq_ok_iff.2 htest
    have hrestrict : ∃ result, source.restrict inner qualifier = .ok result := by
      refine exists_restrict_eq_ok_iff.2 fun own hown => ?_
      exact hranges _ own (by simp [restrictedUnits, hown]) (.inl ⟨test, rfl⟩)
    obtain ⟨result, hresult⟩ := hrestrict
    exact ⟨result, clause_comparison_eq_ok_iff.2 ⟨inner, hinner, hresult⟩⟩
  | combined connective left right ihLeft ihRight =>
    simp only [Pattern.subpatterns, List.forall_mem_cons, List.forall_mem_append] at hnodes
    obtain ⟨⟨word, hword⟩, hleft, hright⟩ := hnodes
    obtain ⟨first, hfirst⟩ : ∃ first, source.clause left none = .ok first :=
      ihLeft hleft fun unit own hunit => hranges unit own (by simp [restrictedUnits, hunit])
    obtain ⟨second, hsecond⟩ : ∃ second, source.clause right none = .ok second :=
      ihRight hright fun unit own hunit => hranges unit own (by simp [restrictedUnits, hunit])
    cases hcombine : combine (connective == .and) word first second with
    | none =>
      exact ⟨none, clause_combined_eq_ok_iff.2
        ⟨word, first, second, hword, hfirst, hsecond, .inl ⟨hcombine, rfl⟩⟩⟩
    | some inner =>
      have hunit : source.clause (.combined connective left right) none = .ok (some inner) :=
        clause_combined_eq_ok_iff.2
          ⟨word, first, second, hword, hfirst, hsecond, .inr ⟨inner, hcombine, rfl⟩⟩
      have hrestrict : ∃ result, source.restrict (some inner) qualifier = .ok result := by
        refine exists_restrict_eq_ok_iff.2 fun own hown => ?_
        exact hranges _ own (by simp [restrictedUnits, hown])
          (readsQualifier_of_clause_eq_some hunit)
      obtain ⟨result, hresult⟩ := hrestrict
      exact ⟨result, clause_combined_eq_ok_iff.2
        ⟨word, first, second, hword, hfirst, hsecond, .inr ⟨inner, hcombine, hresult⟩⟩⟩
  | observation inner ih =>
    simp only [Pattern.subpatterns, List.forall_mem_cons] at hnodes
    exact ih hnodes.2 hranges
  | combinedObservation connective left right ihLeft ihRight =>
    simp only [Pattern.subpatterns, List.forall_mem_cons, List.forall_mem_append] at hnodes
    obtain ⟨⟨word, hword⟩, hleft, hright⟩ := hnodes
    obtain ⟨first, hfirst⟩ := ihLeft hleft fun unit own hunit =>
      hranges unit own (List.mem_append_left _ hunit)
    obtain ⟨second, hsecond⟩ := ihRight hright fun unit own hunit =>
      hranges unit own (List.mem_append_right _ hunit)
    exact ⟨_, clause_combinedObservation_eq_ok_iff.2
      ⟨word, first, second, hword, hfirst, hsecond, rfl⟩⟩
  | qualified inner own ih =>
    simp only [Pattern.subpatterns, List.forall_mem_cons] at hnodes
    exact ih hnodes.2 hranges

/-- A pattern compiles exactly when its nodes are supported and each qualifier that is read has a
time range. -/
theorem exists_clause_eq_ok_iff {pattern : Pattern} {qualifier : Option Qualifier} :
    (∃ result, source.clause pattern qualifier = .ok result) ↔
      (∀ node ∈ pattern.subpatterns, source.Supports node) ∧
        ∀ unit own, (unit, own) ∈ source.restrictedUnits pattern qualifier →
          source.ReadsQualifier unit → ∃ range, own.range = .ok range := by
  constructor
  · rintro ⟨result, hresult⟩
    exact ⟨supports_of_clause_eq_ok hresult,
      fun unit own => exists_range_of_readsQualifier hresult⟩
  · rintro ⟨hnodes, hranges⟩
    exact exists_clause_eq_ok_of_readsQualifier hnodes hranges

/-- The units of a pattern without qualifiers are restricted by the one that the pattern is given
from above. -/
lemma eq_some_of_mem_restrictedUnits {pattern unit : Pattern} {qualifier : Option Qualifier}
    {own : Qualifier} (hunqualified : pattern.IsUnqualified)
    (hunit : (unit, own) ∈ source.restrictedUnits pattern qualifier) : qualifier = some own := by
  induction pattern generalizing qualifier with
  | comparison test =>
    obtain ⟨own', hown, heq⟩ := List.mem_map.1 hunit
    obtain ⟨_, rfl⟩ := Prod.mk.inj heq
    exact Option.mem_toList.1 hown
  | combined connective left right ihLeft ihRight =>
    rw [restrictedUnits, List.mem_append, List.mem_append] at hunit
    rcases hunit with hself | hleft | hright
    · obtain ⟨own', hown, heq⟩ := List.mem_map.1 hself
      obtain ⟨_, rfl⟩ := Prod.mk.inj heq
      exact Option.mem_toList.1 hown
    · have hnone := ihLeft (hunqualified.of_mem (by simp [Pattern.subpatterns])) hleft
      simp at hnone
    · have hnone := ihRight (hunqualified.of_mem (by simp [Pattern.subpatterns])) hright
      simp at hnone
  | observation inner ih =>
    exact ih (hunqualified.of_mem (by simp [Pattern.subpatterns])) hunit
  | combinedObservation connective left right ihLeft ihRight =>
    rcases List.mem_append.1 hunit with hleft | hright
    · have hown := ihLeft (hunqualified.of_mem (by simp [Pattern.subpatterns])) hleft
      exact eq_some_of_leftQualifier hown
    · exact ihRight (hunqualified.of_mem (by simp [Pattern.subpatterns])) hright
  | qualified inner own' _ =>
    exact absurd (Pattern.mem_subpatterns_self _) (hunqualified inner own')

/-- A malformed qualifier over a pattern without qualifiers is reported, unless the pattern has
supported nodes only and every unit in reach of the qualifier is a combination of comparisons with
an inapplicable one among them. -/
theorem predicate_fails_iff_of_malformed_qualifier {pattern : Pattern} {qualifier : Qualifier}
    (hunqualified : pattern.IsUnqualified) (hrange : ¬∃ range, qualifier.range = .ok range) :
    (∃ fault, source.predicate (.qualified pattern qualifier) = .error fault) ↔
      (∃ node ∈ pattern.subpatterns, ¬source.Supports node) ∨
        ∃ unit, (unit, qualifier) ∈ source.restrictedUnits pattern (some qualifier) ∧
          source.ReadsQualifier unit := by
  have hfails : (∃ fault, source.predicate (.qualified pattern qualifier) = .error fault) ↔
      ¬∃ result, source.clause pattern (some qualifier) = .ok result := by
    simp only [predicate, map_eq_error_iff, clause]
    cases source.clause pattern (some qualifier) <;> simp
  rw [hfails, exists_clause_eq_ok_iff, not_and_or]
  refine or_congr (by simp) ⟨fun h => ?_, fun h => ?_⟩
  · simp only [not_forall] at h
    obtain ⟨unit, own, hunit, hreads, _⟩ := h
    obtain rfl : qualifier = own :=
      Option.some.inj (eq_some_of_mem_restrictedUnits hunqualified hunit)
    exact ⟨unit, hunit, hreads⟩
  · obtain ⟨unit, hunit, hreads⟩ := h
    exact fun hranges => hrange (hranges unit qualifier hunit hreads)

/-- A comparison of a field that has no column in the sample event table. -/
def absentSize : Comparison := ⟨"file:size", .greaterThan, .integer 10, false⟩

/-- A qualifier without bounds. -/
def boundlessQualifier : Qualifier := ⟨"START STOP"⟩

/-- A qualifier without bounds has no time range. -/
lemma not_exists_range_boundlessQualifier : ¬∃ range, boundlessQualifier.range = .ok range := by
  have herror : boundlessQualifier.range = .error (.malformedQualifier "START STOP") := by
    decide
  rintro ⟨range, hrange⟩
  simp [herror] at hrange

/-- A file of a name or of an absent size. -/
def partlyAbsent : Pattern :=
  .combined .or (nameIs "a") (.comparison absentSize)

/-- The qualifier without bounds is read over the absent size, although that has no clause, and
fails the compilation. -/
theorem predicate_fails_iff_of_malformed_qualifier_sample :
    ∃ fault, (DataSource.sample .each).predicate (.qualified
      (.combinedObservation .or (.observation (.comparison absentSize))
        (.observation partlyAbsent)) boundlessQualifier) = .error fault := by
  have hunqualified : (Pattern.combinedObservation .or (.observation (.comparison absentSize))
      (.observation partlyAbsent)).IsUnqualified := by
    simp [Pattern.IsUnqualified, partlyAbsent, nameIs, Pattern.subpatterns]
  refine (predicate_fails_iff_of_malformed_qualifier hunqualified
    not_exists_range_boundlessQualifier).2 (.inr ⟨.comparison absentSize, ?_, .inl ⟨_, rfl⟩⟩)
  simp [restrictedUnits, leftQualifier, DataSource.sample]

/-- A malformed qualifier that is not reported, whatever its reach: that of a combination with an
inapplicable comparison. -/
theorem predicate_ok_of_malformed_qualifier :
    partlyAbsent.IsUnqualified ∧ (¬∃ range, boundlessQualifier.range = .ok range) ∧
      (DataSource.sample .last).predicate (.qualified partlyAbsent boundlessQualifier) =
        .ok "" ∧
      (DataSource.sample .each).predicate (.qualified partlyAbsent boundlessQualifier) =
        .ok "" := by
  refine ⟨?_, not_exists_range_boundlessQualifier, ?_, ?_⟩
  · simp [Pattern.IsUnqualified, partlyAbsent, nameIs, Pattern.subpatterns]
  · decide +kernel
  · decide +kernel

end DataSource

end PatternSql
