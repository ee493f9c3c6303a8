import PatternSql.Proofs.Formula
import PatternSql.Proofs.Nodes

/-!
# The meaning of patterns

What a pattern says about a record, given which atoms are true of the record, and when
the predicate of the pattern says the same.

`DataSource.Holds` is the meaning.  A comparison means that one of its applicable columns
passes the test, or that none does when it is negated; a combination means its connective;
and a time range is conjoined to the units that a qualifier reaches, a unit being a
comparison or a combination of comparisons.

The predicate leaves out parentheses around disjunctions.  A pattern is or-shaped when
its predicate is a bare disjunction, and `Separable` when no such pattern is an operand of
a conjunction or receives a time range.  The clause of a separable pattern is separated
(`expresses_clause`), so that reading the predicate with precedence gives the meaning of the
pattern back.
-/

namespace PatternSql

/-- What two statements say under a connective between comparisons. -/
def Connective.Joins : Connective → Prop → Prop → Prop
  | .and, left, right => left ∧ right
  | .or, left, right => left ∨ right

/-- What two statements say under a connective between observations.  The order in which two
observations follow each other is not a matter of one record, so both are required. -/
def ObservationConnective.Joins : ObservationConnective → Prop → Prop → Prop
  | .and, left, right => left ∧ right
  | .or, left, right => left ∨ right
  | .followedBy, left, right => left ∧ right

namespace DataSource

variable {source : DataSource}

/-! ### Meaning -/

/-- A comparison holds when one of its applicable columns passes the test, or when none does and it
is negated. -/
def ComparisonHolds (source : DataSource) (truth : Atom → Bool) (test : Comparison) : Prop :=
  ∃ field word literal, test.field? = some field ∧
    source.mapping.word? test.comparator.key = some word ∧
    Temporal.literalFor field.name test.value = .ok literal ∧
    ((∃ column ∈ source.applicable field test.value,
      truth (.test column word (test.comparator.operand literal)) = true) ↔ test.negated = false)

/-- The time of a record lies within the range of a qualifier, if there is a qualifier. -/
def InTime (source : DataSource) (truth : Atom → Bool) : Option Qualifier → Prop
  | none => True
  | some qualifier =>
    ∃ range, qualifier.range = .ok range ∧ truth (.within source.timeColumn range) = true

/-- A pattern that is given a qualifier from above holds. -/
def Holds (source : DataSource) (truth : Atom → Bool) : Pattern → Option Qualifier → Prop
  | .comparison test, qualifier =>
    source.ComparisonHolds truth test ∧ source.InTime truth qualifier
  | .combined connective left right, qualifier =>
    connective.Joins (source.Holds truth left none) (source.Holds truth right none) ∧
      source.InTime truth qualifier
  | .observation inner, qualifier => source.Holds truth inner qualifier
  | .combinedObservation connective left right, qualifier =>
    connective.Joins (source.Holds truth left (source.leftQualifier qualifier))
      (source.Holds truth right qualifier)
  | .qualified inner own, _ => source.Holds truth inner (some own)

/-! ### Separable patterns -/

/-- Whether a pattern becomes a bare disjunction: below observations and qualifiers it is a
disjunction, or a comparison of a reference, not negated, with two or more applicable columns. -/
def isOrShaped (source : DataSource) : Pattern → Bool
  | .comparison test =>
    match test.field? with
    | none => false
    | some field =>
      !test.negated && isReference field.name && 2 ≤ (source.applicable field test.value).length
  | .combined connective _ _ => connective = .or
  | .observation inner => source.isOrShaped inner
  | .combinedObservation connective _ _ => connective = .or
  | .qualified inner _ => source.isOrShaped inner

/-- The units of a pattern that receive a time range, each with the qualifier that has the range. -/
def restrictedUnits (source : DataSource) :
    Pattern → Option Qualifier → List (Pattern × Qualifier)
  | .comparison test, qualifier => qualifier.toList.map (.comparison test, ·)
  | .combined connective left right, qualifier =>
    qualifier.toList.map (.combined connective left right, ·) ++
      (source.restrictedUnits left none ++ source.restrictedUnits right none)
  | .observation inner, qualifier => source.restrictedUnits inner qualifier
  | .combinedObservation _ left right, qualifier =>
    source.restrictedUnits left (source.leftQualifier qualifier) ++
      source.restrictedUnits right qualifier
  | .qualified inner own, _ => source.restrictedUnits inner (some own)

/-- A pattern, given a qualifier from above, in which no operand of a conjunction and no unit that
receives a time range becomes a bare disjunction, and no observations follow each other. -/
structure Separable (source : DataSource) (pattern : Pattern) (qualifier : Option Qualifier) :
    Prop where
  not_followedBy : ∀ left right, .combinedObservation .followedBy left right ∉ pattern.subpatterns
  combined_and : ∀ left right, .combined .and left right ∈ pattern.subpatterns →
    source.isOrShaped left = false ∧ source.isOrShaped right = false
  observation_and : ∀ left right, .combinedObservation .and left right ∈ pattern.subpatterns →
    source.isOrShaped left = false ∧ source.isOrShaped right = false
  restricted : ∀ unit own, (unit, own) ∈ source.restrictedUnits pattern qualifier →
    source.isOrShaped unit = false

/-- A part of a separable pattern is separable, with the qualifier that it is given. -/
lemma Separable.part {pattern inner : Pattern} {qualifier own : Option Qualifier}
    (h : source.Separable pattern qualifier) (hinner : inner ∈ pattern.subpatterns)
    (hunits : ∀ unit ∈ source.restrictedUnits inner own,
      unit ∈ source.restrictedUnits pattern qualifier) : source.Separable inner own := by
  have hnodes : ∀ node ∈ inner.subpatterns, node ∈ pattern.subpatterns :=
    fun node hnode => Pattern.mem_subpatterns_trans hnode hinner
  refine ⟨?_, ?_, ?_, ?_⟩
  · exact fun left right hmem => h.not_followedBy left right (hnodes _ hmem)
  · exact fun left right hmem => h.combined_and left right (hnodes _ hmem)
  · exact fun left right hmem => h.observation_and left right (hnodes _ hmem)
  · exact fun unit own hmem => h.restricted unit own (hunits _ hmem)

/-- The words that a data source uses between clauses are those of the two connectives. -/
structure StandardWords (source : DataSource) : Prop where
  and : source.mapping.word? Connective.and.key = some "AND"
  or : source.mapping.word? Connective.or.key = some "OR"
  observationAnd : source.mapping.word? ObservationConnective.and.key = some "AND"
  observationOr : source.mapping.word? ObservationConnective.or.key = some "OR"

/-- The sample event table has the words of the two connectives. -/
lemma standardWords_sample (scope : Scope) : (DataSource.sample scope).StandardWords := by
  have hand : Mapping.sample.word? Connective.and.key = some "AND" := by decide +kernel
  have hor : Mapping.sample.word? Connective.or.key = some "OR" := by decide +kernel
  have hobservationAnd : Mapping.sample.word? ObservationConnective.and.key = some "AND" := by
    decide +kernel
  have hobservationOr : Mapping.sample.word? ObservationConnective.or.key = some "OR" := by
    decide +kernel
  exact ⟨hand, hor, hobservationAnd, hobservationOr⟩

/-! ### Clauses that express a statement

The invariant of the compilation: the clause of a pattern is separated, it is a bare
disjunction only for a pattern of that shape, and along its tree it has the value of the
pattern's meaning.
-/

/-- A clause that can be read with precedence, says a given thing about a record, and is a bare
disjunction only when that is allowed. -/
structure Expresses (clause : Clause) (bare : Prop) (meaning : (Atom → Bool) → Prop) : Prop where
  separated : clause.Separated
  bare_of_isDisjunction : clause.isDisjunction = true → bare
  eval_iff : ∀ truth, clause.eval truth = true ↔ meaning truth

/-- A clause that is no bare disjunction expresses its value, whatever is allowed. -/
lemma Expresses.of_isDisjunction_eq_false {clause : Clause} {bare : Prop}
    {meaning : (Atom → Bool) → Prop} (hseparated : clause.Separated)
    (hnot : clause.isDisjunction = false)
    (heval : ∀ truth, clause.eval truth = true ↔ meaning truth) :
    Expresses clause bare meaning :=
  ⟨hseparated, fun hdisjunction => by simp [hnot] at hdisjunction, heval⟩

/-- A clause that may not be a bare disjunction is none. -/
lemma Expresses.isDisjunction_eq_false {clause : Clause} {bare : Prop}
    {meaning : (Atom → Bool) → Prop} (h : Expresses clause bare meaning) (hbare : ¬bare) :
    clause.isDisjunction = false := by
  cases hclause : clause.isDisjunction with
  | false => rfl
  | true => exact absurd (h.bare_of_isDisjunction hclause) hbare

section Joined

variable {left right : Clause} {bareLeft bareRight bare : Prop}
  {meaningLeft meaningRight : (Atom → Bool) → Prop}

/-- Two clauses that are no bare disjunctions express their conjunction when joined by `AND`. -/
lemma Expresses.joined_and (grouped : Bool) (hleft : Expresses left bareLeft meaningLeft)
    (hright : Expresses right bareRight meaningRight) (hbareLeft : ¬bareLeft)
    (hbareRight : ¬bareRight) :
    Expresses (joined grouped "AND" left right) bare
      fun truth => meaningLeft truth ∧ meaningRight truth := by
  have hseparated : (Clause.join "AND" left right).Separated :=
    ⟨.inl ⟨rfl, hleft.isDisjunction_eq_false hbareLeft,
      hright.isDisjunction_eq_false hbareRight⟩, hleft.separated, hright.separated⟩
  have heval : ∀ truth, (Clause.join "AND" left right).eval truth = true ↔
      meaningLeft truth ∧ meaningRight truth := by
    intro truth
    rw [Clause.eval, if_pos rfl, Bool.and_eq_true, hleft.eval_iff, hright.eval_iff]
  cases grouped with
  | false => exact .of_isDisjunction_eq_false hseparated (by simp [joined]) heval
  | true => exact .of_isDisjunction_eq_false hseparated (by simp [joined]) heval

/-- Two clauses joined by `OR` express their disjunction, as a bare one. -/
lemma Expresses.joined_or (hleft : Expresses left bareLeft meaningLeft)
    (hright : Expresses right bareRight meaningRight) (hbare : bare) :
    Expresses (joined false "OR" left right) bare
      fun truth => meaningLeft truth ∨ meaningRight truth where
  separated := ⟨.inr rfl, hleft.separated, hright.separated⟩
  bare_of_isDisjunction _ := hbare
  eval_iff truth := by
    have hword : "OR" ≠ "AND" := by decide
    rw [joined, if_neg (by simp), Clause.eval, if_neg hword, Bool.or_eq_true, hleft.eval_iff,
      hright.eval_iff]

/-- A restricted clause that is no bare disjunction expresses that its time is in range as well. -/
lemma Expresses.restrict {clause : Clause} {qualifier : Option Qualifier}
    (hleft : Expresses left bare meaningLeft) (hbare : ∀ own, qualifier = some own → ¬bare)
    (h : source.restrict (some left) qualifier = .ok (some clause)) :
    Expresses clause bare fun truth => meaningLeft truth ∧ source.InTime truth qualifier := by
  cases qualifier with
  | none =>
    rw [restrict_none, Except.ok.injEq, Option.some.injEq] at h
    subst h
    exact ⟨hleft.separated, hleft.bare_of_isDisjunction, fun truth => by
      simp [hleft.eval_iff, InTime]⟩
  | some own =>
    obtain ⟨range, hrange, hclause⟩ := restrict_some_eq_ok_iff.1 h
    rw [Option.map_some, Option.some.injEq] at hclause
    have hwithin : Expresses (.within source.timeColumn range) False
        fun truth => source.InTime truth (some own) :=
      .of_isDisjunction_eq_false trivial rfl fun truth => by
        simp [Clause.eval, InTime, hrange]
    rw [hclause]
    exact hleft.joined_and false hwithin (hbare own rfl) id

end Joined

/-- A fan-out over columns expresses that one of them passes the test; it is bare when there are
two or more columns and no parentheses. -/
lemma expresses_fanOut {grouped : Bool} {columns : List String} {word operand : String}
    {clause : Clause}
    (h : fanOut grouped (columns.map (Clause.test · word operand)) = some clause) :
    Expresses clause (grouped = false ∧ 2 ≤ columns.length)
      fun truth => ∃ column ∈ columns, truth (.test column word operand) = true := by
  obtain ⟨disjunction, hany, hclause⟩ := Option.map_eq_some_iff.1 h
  have hseparated : disjunction.Separated := by
    refine Clause.separated_of_anyOf? (fun part hpart => ?_) hany
    obtain ⟨column, _, rfl⟩ := List.mem_map.1 hpart
    trivial
  have heval : ∀ truth, disjunction.eval truth = true ↔
      ∃ column ∈ columns, truth (.test column word operand) = true := by
    intro truth
    simp [Clause.eval_of_anyOf? hany, Clause.eval]
  have hbare : disjunction.isDisjunction = true → 2 ≤ columns.length := by
    intro hdisjunction
    have hlength := Clause.one_lt_length_of_anyOf? (fun part hpart => by
      obtain ⟨column, _, rfl⟩ := List.mem_map.1 hpart
      rfl) hany hdisjunction
    rwa [List.length_map] at hlength
  cases grouped with
  | false =>
    rw [if_neg (by simp)] at hclause
    subst hclause
    exact ⟨hseparated, fun hdisjunction => ⟨rfl, hbare hdisjunction⟩, heval⟩
  | true =>
    rw [Bool.true_and] at hclause
    split at hclause
    · subst hclause
      exact .of_isDisjunction_eq_false hseparated (by simp) heval
    · rename_i hshort
      subst hclause
      refine ⟨hseparated, fun hdisjunction => absurd (hbare hdisjunction) ?_, heval⟩
      simpa [Nat.lt_succ_iff] using hshort

/-- The clause of a comparison expresses the comparison. -/
lemma expresses_leafClause {test : Comparison} {field : Field} {word : String} {literal : Literal}
    {clause : Clause} (hfield : test.field? = some field)
    (hword : source.mapping.word? test.comparator.key = some word)
    (hliteral : Temporal.literalFor field.name test.value = .ok literal)
    (h : source.leafClause test field word literal = some clause) :
    Expresses clause (source.isOrShaped (.comparison test) = true)
      fun truth => source.ComparisonHolds truth test := by
  have hholds : ∀ truth, source.ComparisonHolds truth test ↔
      ((∃ column ∈ source.applicable field test.value,
        truth (.test column word (test.comparator.operand literal)) = true) ↔
          test.negated = false) := by
    intro truth
    simp [ComparisonHolds, hfield, hword, hliteral]
  unfold leafClause at h
  cases hnegated : test.negated with
  | false =>
    rw [hnegated, if_neg (by simp)] at h
    have hfan := expresses_fanOut h
    refine ⟨hfan.separated, fun hdisjunction => ?_, fun truth => ?_⟩
    · obtain ⟨hgrouped, hlength⟩ := hfan.bare_of_isDisjunction hdisjunction
      have hreference : isReference field.name = true := by simpa using hgrouped
      simp [isOrShaped, hfield, hnegated, hreference, hlength]
    · rw [hfan.eval_iff, hholds, hnegated]
      simp
  | true =>
    rw [hnegated, if_pos rfl] at h
    obtain ⟨inner, hinner, rfl⟩ := Option.map_eq_some_iff.1 h
    have hfan := expresses_fanOut hinner
    -- the parentheses of the negation enclose the fan-out, whether it is bare or not
    refine .of_isDisjunction_eq_false hfan.separated (by simp) fun truth => ?_
    rw [Clause.eval, Bool.not_eq_true', ← Bool.not_eq_true, hfan.eval_iff, hholds, hnegated]
    simp

/-- The clause of a comparison that is given a qualifier is that of the comparison, restricted. -/
lemma exists_leaf_of_clause {test : Comparison} {qualifier : Option Qualifier} {clause : Clause}
    (h : source.clause (.comparison test) qualifier = .ok (some clause)) :
    ∃ leaf, Expresses leaf (source.isOrShaped (.comparison test) = true)
        (fun truth => source.ComparisonHolds truth test) ∧
      source.restrict (some leaf) qualifier = .ok (some clause) := by
  obtain ⟨inner, hinner, hrestrict⟩ := clause_comparison_eq_ok_iff.1 h
  cases inner with
  | none => simpa using (eq_none_iff_of_restrict hrestrict).2 rfl
  | some leaf =>
    obtain ⟨field, word, literal, hfield, hword, hliteral, hleaf⟩ :=
      comparisonClause_eq_ok_iff.1 hinner
    exact ⟨leaf, expresses_leafClause hfield hword hliteral hleaf.symm, hrestrict⟩

/-! ### Compilation -/

/-- The clause of a separable pattern expresses the pattern. -/
theorem expresses_clause (hwords : source.StandardWords) {pattern : Pattern}
    {qualifier : Option Qualifier} {clause : Clause}
    (hseparable : source.Separable pattern qualifier)
    (h : source.clause pattern qualifier = .ok (some clause)) :
    Expresses clause (source.isOrShaped pattern = true)
      fun truth => source.Holds truth pattern qualifier := by
  induction pattern generalizing qualifier clause with
  | comparison test =>
    obtain ⟨leaf, hleaf, hrestrict⟩ := exists_leaf_of_clause h
    refine hleaf.restrict ?_ hrestrict
    rintro own rfl
    exact ne_true_of_eq_false (hseparable.restricted _ own (by simp [restrictedUnits]))
  | combined connective left right ihLeft ihRight =>
    obtain ⟨word, first, second, hword, hfirst, hsecond, hcases⟩ :=
      clause_combined_eq_ok_iff.1 h
    rcases hcases with ⟨_, hnone⟩ | ⟨inner, hinner, hrestrict⟩
    · simp at hnone
    · obtain ⟨leftClause, rightClause, rfl, rfl, rfl⟩ := combine_eq_some_iff.1 hinner
      have hleft := ihLeft (hseparable.part (by simp [Pattern.subpatterns])
        (by simp +contextual [restrictedUnits])) hfirst
      have hright := ihRight (hseparable.part (by simp [Pattern.subpatterns])
        (by simp +contextual [restrictedUnits])) hsecond
      -- a qualifier restricts the combination as a whole, and its parts are given none
      have hunit : ∀ own, qualifier = some own →
          ¬source.isOrShaped (.combined connective left right) = true := by
        rintro own rfl
        exact ne_true_of_eq_false (hseparable.restricted _ own (by simp [restrictedUnits]))
      cases connective with
      | and =>
        obtain rfl : "AND" = word := Option.some.inj (hwords.and.symm.trans hword)
        obtain ⟨hbareLeft, hbareRight⟩ :=
          hseparable.combined_and left right (Pattern.mem_subpatterns_self _)
        exact (hleft.joined_and true hright (ne_true_of_eq_false hbareLeft)
          (ne_true_of_eq_false hbareRight)).restrict hunit hrestrict
      | or =>
        obtain rfl : "OR" = word := Option.some.inj (hwords.or.symm.trans hword)
        exact (hleft.joined_or hright (by simp [isOrShaped])).restrict hunit hrestrict
  | observation inner ih =>
    exact ih (hseparable.part (by simp [Pattern.subpatterns])
      (by simp +contextual [restrictedUnits])) h
  | combinedObservation connective left right ihLeft ihRight =>
    obtain ⟨word, first, second, hword, hfirst, hsecond, hresult⟩ :=
      clause_combinedObservation_eq_ok_iff.1 h
    obtain ⟨leftClause, rightClause, rfl, rfl, rfl⟩ := combine_eq_some_iff.1 hresult.symm
    have hleft := ihLeft (hseparable.part (by simp [Pattern.subpatterns])
      (by simp +contextual [restrictedUnits])) hfirst
    have hright := ihRight (hseparable.part (by simp [Pattern.subpatterns])
      (by simp +contextual [restrictedUnits])) hsecond
    cases connective with
    | and =>
      obtain rfl : "AND" = word := Option.some.inj (hwords.observationAnd.symm.trans hword)
      obtain ⟨hbareLeft, hbareRight⟩ :=
        hseparable.observation_and left right (Pattern.mem_subpatterns_self _)
      exact hleft.joined_and _ hright (ne_true_of_eq_false hbareLeft)
        (ne_true_of_eq_false hbareRight)
    | or =>
      obtain rfl : "OR" = word := Option.some.inj (hwords.observationOr.symm.trans hword)
      have hgrouped : (qualifier.isNone && ObservationConnective.or == .and) = false := by
        simp
      rw [hgrouped]
      exact hleft.joined_or hright (by simp [isOrShaped])
    | followedBy =>
      exact absurd (Pattern.mem_subpatterns_self _) (hseparable.not_followedBy left right)
  | qualified inner own ih =>
    exact ih (hseparable.part (by simp [Pattern.subpatterns])
      (by simp +contextual [restrictedUnits])) h

/-- The predicate of a separable pattern, read with precedence, says what the pattern means: where
it is not empty it is made up of tokens that denote a formula, and the formula is true under
exactly the truth assignments under which the pattern holds. -/
theorem predicate_denotes_meaning {pattern : Pattern} {text : String}
    (hwords : source.StandardWords) (hseparable : source.Separable pattern none)
    (htext : source.predicate pattern = .ok text) (hne : text ≠ "") :
    ∃ tokens formula, Token.concat tokens = text ∧ Formula.parse? tokens = some formula ∧
      ∀ truth, formula.eval truth = true ↔ source.Holds truth pattern none := by
  obtain ⟨result, hresult, rfl⟩ := predicate_eq_ok_iff.1 htext
  cases result with
  | none => exact absurd rfl hne
  | some clause =>
    have hexpresses := expresses_clause hwords hseparable hresult
    obtain ⟨formula, hparse, heval⟩ := Clause.exists_parse?_tokens hexpresses.separated
    refine ⟨clause.tokens, formula, Clause.concat_tokens hexpresses.separated, hparse, ?_⟩
    intro truth
    rw [heval, hexpresses.eval_iff]

/-- Two observations in a time range, the first of two comparisons: an address in one of two
columns, and a file name that is not alike. -/
def samplePattern : Pattern :=
  .qualified
    (.combinedObservation .or
      (.observation (.combined .and (.comparison hostTest) (.comparison partialNameTest)))
      (.observation (.comparison portTest)))
    dayQualifier

/-- The sample pattern is separable in the sample event table. -/
lemma separable_samplePattern : (DataSource.sample .each).Separable samplePattern none := by
  have haddress : (DataSource.sample .each).isOrShaped (.comparison hostTest) = false := by
    decide +kernel
  have hname : (DataSource.sample .each).isOrShaped (.comparison partialNameTest) = false := by
    decide +kernel
  have hport : (DataSource.sample .each).isOrShaped (.comparison portTest) = false := by
    decide +kernel
  refine ⟨?_, ?_, ?_, ?_⟩
  · simp [samplePattern, Pattern.subpatterns]
  · simp [samplePattern, Pattern.subpatterns, haddress, hname]
  · simp [samplePattern, Pattern.subpatterns]
  · intro unit own hunit
    simp only [samplePattern, DataSource.sample, restrictedUnits, leftQualifier,
      Option.toList_some, Option.toList_none, List.map_cons, List.map_nil, List.append_nil,
      List.cons_append, List.nil_append, List.mem_cons, List.not_mem_nil, or_false,
      Prod.mk.injEq] at hunit
    rcases hunit with ⟨rfl, _⟩ | ⟨rfl, _⟩
    · rfl
    · exact hport

/-- The predicate of the sample pattern is read as a formula, which holds just when the pattern
does. -/
theorem predicate_denotes_meaning_sample :
    ∃ text tokens formula, (DataSource.sample .each).predicate samplePattern = .ok text ∧
      Token.concat tokens = text ∧ Formula.parse? tokens = some formula ∧
      ∀ truth, formula.eval truth = true ↔
        (DataSource.sample .each).Holds truth samplePattern none := by
  have htext : (DataSource.sample .each).predicate samplePattern = .ok
      ("((source_ipaddr = '10.0.0.1' OR dest_ipaddr = '10.0.0.1') AND " ++
        "NOT(filename LIKE '%evil%')) AND " ++
        "(entry_time >= 1577836800000 AND entry_time <= 1577923200000) OR " ++
        "source_port > 1024 AND " ++
        "(entry_time >= 1577836800000 AND entry_time <= 1577923200000)") := by
    decide +kernel
  obtain ⟨tokens, formula, hformula⟩ :=
    predicate_denotes_meaning (standardWords_sample .each) separable_samplePattern htext
      (by decide)
  exact ⟨_, tokens, formula, htext, hformula⟩

end DataSource

end PatternSql
