import PatternSql.Proofs.Meaning
import PatternSql.Proofs.Placement

/-!
# Time bounds of predicates

Whether the records that pass the predicate of a qualified pattern lie within the time range
of the qualifier, when the predicate is read with precedence.

The range stands behind each unit of the pattern, and it binds to what the unit ends with.
A unit that becomes an operand (a single test, a group or a negation) is bound as a
whole; one that becomes a bare disjunction is bound in its last disjunct only, and the
others let records of any time pass.

`Formula.Requires` says of tokens that each disjunct they are read as needs a given atom.
It is kept by both connectives, so it is enough that the units have it.
-/

namespace PatternSql

/-! ### Atoms that every disjunct needs -/

namespace Formula

open Reader

variable {tokens rest : List Token} {part : Atom}

/-- Tokens that can be read where an operand has to follow, and leave the brackets as they are. -/
def IsReadable (tokens : List Token) : Prop :=
  ∀ frame outer, ∃ disjuncts conjuncts last,
    run? tokens (.before frame outer) =
      some (.after { frame with disjuncts, conjuncts } outer last)

/-- Tokens that are read without finishing a disjunct. -/
def StaysInDisjunct (tokens : List Token) : Prop :=
  ∀ frame outer, ∃ conjuncts last,
    run? tokens (.before frame outer) = some (.after { frame with conjuncts } outer last)

/-- Tokens each of whose disjuncts needs an atom: while the atom is false, those that are finished
add nothing, and the current one is false. -/
def Requires (part : Atom) (tokens : List Token) : Prop :=
  ∀ frame outer, ∃ disjuncts conjuncts last,
    run? tokens (.before frame outer) =
        some (.after { frame with disjuncts, conjuncts } outer last) ∧
      ∀ truth, truth part = false →
        ({ frame with disjuncts, conjuncts } : Frame).disjunctsValue truth =
            frame.disjunctsValue truth ∧
          (({ frame with disjuncts, conjuncts } : Frame).conjoin last).eval truth = false

/-- Two readable runs of tokens are readable with a connective between them. -/
lemma IsReadable.connect (hfirst : IsReadable tokens) (hsecond : IsReadable rest)
    {connective : Token} (hconnective : connective = .and ∨ connective = .or) :
    IsReadable (tokens ++ connective :: rest) := by
  intro frame outer
  obtain ⟨disjuncts, conjuncts, last, hrun⟩ := hfirst frame outer
  rcases hconnective with rfl | rfl
  · obtain ⟨disjuncts', conjuncts', last', hrun'⟩ := hsecond
      { frame with
        disjuncts
        conjuncts := some (({ frame with disjuncts, conjuncts } : Frame).conjoin last) } outer
    refine ⟨disjuncts', conjuncts', last', ?_⟩
    rw [run?_append, hrun]
    exact hrun'
  · obtain ⟨disjuncts', conjuncts', last', hrun'⟩ := hsecond
      { frame with
        disjuncts := some (({ frame with disjuncts, conjuncts } : Frame).disjoin last)
        conjuncts := none } outer
    refine ⟨disjuncts', conjuncts', last', ?_⟩
    rw [run?_append, hrun]
    exact hrun'

/-- Readable tokens between brackets stay in the disjunct. -/
lemma IsReadable.bracket (h : IsReadable tokens) {bracket : Token}
    (hbracket : bracket = .opening ∨ bracket = .negation) :
    StaysInDisjunct (bracket :: (tokens ++ [.closing])) := by
  intro frame outer
  rcases hbracket with rfl | rfl
  · obtain ⟨disjuncts, conjuncts, last, hrun⟩ := h {} (frame :: outer)
    refine ⟨frame.conjuncts, ({ disjuncts, conjuncts } : Frame).close last, ?_⟩
    rw [run?, next?, Option.bind_some, run?_append, hrun]
    rfl
  · obtain ⟨disjuncts, conjuncts, last, hrun⟩ := h { negated := true } (frame :: outer)
    refine ⟨frame.conjuncts, ({ disjuncts, conjuncts, negated := true } : Frame).close last, ?_⟩
    rw [run?, next?, Option.bind_some, run?_append, hrun]
    rfl

/-- Tokens that stay in the disjunct are readable. -/
lemma StaysInDisjunct.isReadable (h : StaysInDisjunct tokens) : IsReadable tokens := by
  intro frame outer
  obtain ⟨conjuncts, last, hrun⟩ := h frame outer
  exact ⟨frame.disjuncts, conjuncts, last, hrun⟩

/-- The tokens of a conjunction stay in the disjunct. -/
lemma ReadsConjunction.staysInDisjunct {value : (Atom → Bool) → Bool}
    (h : ReadsConjunction tokens value) : StaysInDisjunct tokens := by
  intro frame outer
  obtain ⟨conjuncts, last, hrun, _⟩ := h frame outer
  exact ⟨conjuncts, last, hrun⟩

/-- Tokens that stay in the disjunct need the atom that is conjoined to them. -/
lemma StaysInDisjunct.and_atom (h : StaysInDisjunct tokens) (part : Atom) :
    Requires part (tokens ++ [.and, .atom part]) := by
  intro frame outer
  obtain ⟨conjuncts, last, hrun⟩ := h frame outer
  refine ⟨frame.disjuncts, some (({ frame with conjuncts } : Frame).conjoin last), .atom part,
    ?_, fun truth hpart => ⟨rfl, ?_⟩⟩
  · rw [run?_append, hrun]
    rfl
  · rw [Frame.eval_conjoin, eval, hpart, Bool.and_false]

/-- What both operands of a conjunction need, the conjunction needs. -/
lemma Requires.and (hfirst : Requires part tokens) (hsecond : Requires part rest) :
    Requires part (tokens ++ .and :: rest) := by
  intro frame outer
  obtain ⟨disjuncts, conjuncts, last, hrun, hvalue⟩ := hfirst frame outer
  obtain ⟨disjuncts', conjuncts', last', hrun', hvalue'⟩ := hsecond
    { frame with
      disjuncts
      conjuncts := some (({ frame with disjuncts, conjuncts } : Frame).conjoin last) } outer
  refine ⟨disjuncts', conjuncts', last', ?_, fun truth hpart => ?_⟩
  · rw [run?_append, hrun]
    exact hrun'
  · obtain ⟨hdisjuncts, _⟩ := hvalue truth hpart
    obtain ⟨hdisjuncts', hcurrent'⟩ := hvalue' truth hpart
    exact ⟨hdisjuncts'.trans hdisjuncts, hcurrent'⟩

/-- What both operands of a disjunction need, the disjunction needs. -/
lemma Requires.or (hfirst : Requires part tokens) (hsecond : Requires part rest) :
    Requires part (tokens ++ .or :: rest) := by
  intro frame outer
  obtain ⟨disjuncts, conjuncts, last, hrun, hvalue⟩ := hfirst frame outer
  obtain ⟨disjuncts', conjuncts', last', hrun', hvalue'⟩ := hsecond
    { frame with
      disjuncts := some (({ frame with disjuncts, conjuncts } : Frame).disjoin last)
      conjuncts := none } outer
  refine ⟨disjuncts', conjuncts', last', ?_, fun truth hpart => ?_⟩
  · rw [run?_append, hrun]
    exact hrun'
  · obtain ⟨hdisjuncts, hcurrent⟩ := hvalue truth hpart
    obtain ⟨hdisjuncts', hcurrent'⟩ := hvalue' truth hpart
    refine ⟨hdisjuncts'.trans ?_, hcurrent'⟩
    -- the disjunct that the `OR` finishes is false, so it adds nothing to those before it
    calc (({ frame with disjuncts, conjuncts } : Frame).disjoin last).eval truth
        = (({ frame with disjuncts, conjuncts } : Frame).disjunctsValue truth || false) := by
          rw [Frame.eval_disjoin, hcurrent]
      _ = frame.disjunctsValue truth := by rw [hdisjuncts, Bool.or_false]

/-- Tokens that need an atom denote a formula that is false when the atom is. -/
lemma Requires.exists_parse? (h : Requires part tokens) :
    ∃ formula, parse? tokens = some formula ∧
      ∀ truth, truth part = false → formula.eval truth = false := by
  obtain ⟨disjuncts, conjuncts, last, hrun, hvalue⟩ := h {} []
  refine ⟨({ disjuncts, conjuncts } : Frame).close last, ?_, fun truth hpart => ?_⟩
  · rw [parse?, hrun]
  · obtain ⟨hdisjuncts, hcurrent⟩ := hvalue truth hpart
    calc (({ disjuncts, conjuncts } : Frame).disjoin last).eval truth
        = (({ disjuncts, conjuncts } : Frame).disjunctsValue truth || false) := by
          rw [Frame.eval_disjoin, hcurrent]
      _ = false := by rw [hdisjuncts]; rfl

end Formula

namespace Clause

open Formula

/-- Every clause can be read. -/
lemma isReadable_tokens (clause : Clause) : IsReadable clause.tokens := by
  induction clause with
  | test column word operand =>
    exact (readsOperand_atom _).conjunction.staysInDisjunct.isReadable
  | within column range => exact (readsOperand_atom _).conjunction.staysInDisjunct.isReadable
  | join word left right ihLeft ihRight =>
    refine ihLeft.connect ihRight ?_
    split <;> simp
  | group inner ih => exact (ih.bracket (.inl rfl)).isReadable
  | negation inner ih => exact (ih.bracket (.inr rfl)).isReadable

/-- A clause between parentheses stays in the disjunct. -/
lemma staysInDisjunct_group (inner : Clause) : StaysInDisjunct (group inner).tokens :=
  inner.isReadable_tokens.bracket (.inl rfl)

end Clause

/-! ### Compilation -/

namespace DataSource

variable {source : DataSource} {pattern : Pattern} {qualifier : Qualifier} {range : TimeRange}

/-- An atom that belongs to a pattern: a test of one of its comparisons, or a range of the time
column. -/
def IsAtomOf (source : DataSource) (pattern : Pattern) : Atom → Prop
  | .test column word operand => source.IsTestOf pattern column word operand
  | .within column _ => column = source.timeColumn

end DataSource

/-- The atoms of a clause built from a pattern belong to the pattern. -/
lemma Clause.BuiltFrom.isAtomOf {source : DataSource} {pattern : Pattern} {clause : Clause}
    (h : clause.BuiltFrom source pattern) :
    ∀ part, .atom part ∈ clause.tokens → source.IsAtomOf pattern part := by
  induction h with
  | test h =>
    intro part hpart
    obtain rfl : part = .test _ _ _ := by simpa [Clause.tokens] using hpart
    exact h
  | within range =>
    intro part hpart
    obtain rfl : part = .within _ _ := by simpa [Clause.tokens] using hpart
    rfl
  | join _ _ _ ihLeft ihRight =>
    intro part hpart
    rw [Clause.tokens, List.mem_append, List.mem_cons] at hpart
    rcases hpart with hleft | hword | hright
    · exact ihLeft part hleft
    · split at hword <;> simp at hword
    · exact ihRight part hright
  | group _ ih =>
    intro part hpart
    exact ih part (by simpa [Clause.tokens] using hpart)
  | negation _ ih =>
    intro part hpart
    exact ih part (by simpa [Clause.tokens] using hpart)

namespace DataSource

variable {source : DataSource} {pattern : Pattern} {qualifier : Qualifier} {range : TimeRange}

/-- A data source whose words for the connectives of a pattern are `AND` and `OR`. -/
structure Connects (source : DataSource) (pattern : Pattern) : Prop where
  standard : source.StandardWords
  followedBy : ∀ left right, .combinedObservation .followedBy left right ∈ pattern.subpatterns →
    ∀ word, source.mapping.word? ObservationConnective.followedBy.key = some word →
      word = "AND" ∨ word = "OR"

/-- The connectives of a part of a pattern are connectives of the pattern. -/
lemma Connects.of_mem {part : Pattern} (h : source.Connects pattern)
    (hpart : part ∈ pattern.subpatterns) : source.Connects part :=
  ⟨h.standard, fun left right hmem =>
    h.followedBy left right (Pattern.mem_subpatterns_trans hmem hpart)⟩

/-- The word between two comparisons is one of the two connectives. -/
lemma StandardWords.eq_or_eq (h : source.StandardWords) {connective : Connective} {word : String}
    (hword : source.mapping.word? connective.key = some word) : word = "AND" ∨ word = "OR" := by
  cases connective with
  | and => exact .inl (Option.some.inj (hword.symm.trans h.and))
  | or => exact .inr (Option.some.inj (hword.symm.trans h.or))

/-- The word between two observations is one of the two connectives. -/
lemma Connects.eq_or_eq {connective : ObservationConnective} {left right : Pattern}
    (h : source.Connects (.combinedObservation connective left right)) {word : String}
    (hword : source.mapping.word? connective.key = some word) : word = "AND" ∨ word = "OR" := by
  cases connective with
  | and => exact .inl (Option.some.inj (hword.symm.trans h.standard.observationAnd))
  | or => exact .inr (Option.some.inj (hword.symm.trans h.standard.observationOr))
  | followedBy => exact h.followedBy left right (Pattern.mem_subpatterns_self _) word hword

/-- Two connected clauses are connected when they are joined by a connective. -/
lemma connected_joined {grouped : Bool} {word : String} {left right : Clause}
    (hword : word = "AND" ∨ word = "OR") (hleft : left.Connected) (hright : right.Connected) :
    (joined grouped word left right).Connected := by
  cases grouped with
  | false => exact ⟨hword, hleft, hright⟩
  | true => exact ⟨hword, hleft, hright⟩

/-- A restricted clause is connected. -/
lemma connected_of_restrict {qualifier : Option Qualifier} {inner clause : Clause}
    (hinner : inner.Connected) (h : source.restrict (some inner) qualifier = .ok (some clause)) :
    clause.Connected := by
  cases qualifier with
  | none =>
    rw [restrict_none, Except.ok.injEq, Option.some.injEq] at h
    rwa [← h]
  | some own =>
    obtain ⟨range, _, hclause⟩ := restrict_some_eq_ok_iff.1 h
    rw [Option.map_some, Option.some.injEq] at hclause
    rw [hclause]
    exact ⟨.inl rfl, hinner, trivial⟩

/-- The clause of a pattern is connected. -/
lemma connected_of_clause {qualifier : Option Qualifier} {clause : Clause}
    (hconnects : source.Connects pattern)
    (h : source.clause pattern qualifier = .ok (some clause)) : clause.Connected := by
  induction pattern generalizing qualifier clause with
  | comparison test =>
    obtain ⟨leaf, hleaf, hrestrict⟩ := exists_leaf_of_clause h
    exact connected_of_restrict hleaf.separated.connected hrestrict
  | combined connective left right ihLeft ihRight =>
    obtain ⟨word, first, second, hword, hfirst, hsecond, hcases⟩ :=
      clause_combined_eq_ok_iff.1 h
    rcases hcases with ⟨_, hnone⟩ | ⟨inner, hinner, hrestrict⟩
    · simp at hnone
    · obtain ⟨leftClause, rightClause, rfl, rfl, rfl⟩ := combine_eq_some_iff.1 hinner
      have hleft := ihLeft (hconnects.of_mem (by simp [Pattern.subpatterns])) hfirst
      have hright := ihRight (hconnects.of_mem (by simp [Pattern.subpatterns])) hsecond
      exact connected_of_restrict
        (connected_joined (hconnects.standard.eq_or_eq hword) hleft hright) hrestrict
  | observation inner ih => exact ih (hconnects.of_mem (by simp [Pattern.subpatterns])) h
  | combinedObservation connective left right ihLeft ihRight =>
    obtain ⟨word, first, second, hword, hfirst, hsecond, hresult⟩ :=
      clause_combinedObservation_eq_ok_iff.1 h
    obtain ⟨leftClause, rightClause, rfl, rfl, rfl⟩ := combine_eq_some_iff.1 hresult.symm
    have hleft := ihLeft (hconnects.of_mem (by simp [Pattern.subpatterns])) hfirst
    have hright := ihRight (hconnects.of_mem (by simp [Pattern.subpatterns])) hsecond
    exact connected_joined (hconnects.eq_or_eq hword) hleft hright
  | qualified inner own ih => exact ih (hconnects.of_mem (by simp [Pattern.subpatterns])) h

/-- A restricted clause needs the time range, if it was read without finishing a disjunct. -/
lemma requires_of_restrict {inner clause : Clause} (hrange : qualifier.range = .ok range)
    (hinner : Formula.StaysInDisjunct inner.tokens)
    (h : source.restrict (some inner) (some qualifier) = .ok (some clause)) :
    Formula.Requires (.within source.timeColumn range) clause.tokens := by
  obtain ⟨range', hrange', hclause⟩ := restrict_some_eq_ok_iff.1 h
  obtain rfl : range = range' := Except.ok.inj (hrange.symm.trans hrange')
  rw [Option.map_some, Option.some.injEq] at hclause
  rw [hclause]
  exact hinner.and_atom _

/-- When a qualifier reaches each observation, and no unit becomes a bare disjunction, every
disjunct of the clause of a nest needs the time range. -/
theorem requires_of_clause (hscope : source.scope = .each) (hrange : qualifier.range = .ok range)
    (hnest : pattern.IsNest) (hunits : ∀ unit ∈ pattern.units, source.isOrShaped unit = false)
    {clause : Clause} (h : source.clause pattern (some qualifier) = .ok (some clause)) :
    Formula.Requires (.within source.timeColumn range) clause.tokens := by
  induction pattern generalizing clause with
  | comparison test =>
    obtain ⟨leaf, hleaf, hrestrict⟩ := exists_leaf_of_clause h
    have hshape := ne_true_of_eq_false (hunits _ (List.mem_singleton_self _))
    have hconjunction := (Clause.readsDisjunction_tokens hleaf.separated).2
      (hleaf.isDisjunction_eq_false hshape)
    exact requires_of_restrict hrange hconjunction.staysInDisjunct hrestrict
  | combined connective left right _ _ =>
    obtain ⟨word, first, second, _, _, _, hcases⟩ := clause_combined_eq_ok_iff.1 h
    rcases hcases with ⟨_, hnone⟩ | ⟨inner, hinner, hrestrict⟩
    · simp at hnone
    · obtain ⟨leftClause, rightClause, rfl, rfl, rfl⟩ := combine_eq_some_iff.1 hinner
      cases connective with
      | and => exact requires_of_restrict hrange (Clause.staysInDisjunct_group _) hrestrict
      | or => simpa [isOrShaped] using hunits _ (List.mem_singleton_self _)
  | observation inner ih => exact ih hnest hunits h
  | combinedObservation connective left right ihLeft ihRight =>
    obtain ⟨word, first, second, _, hfirst, hsecond, hresult⟩ :=
      clause_combinedObservation_eq_ok_iff.1 h
    obtain ⟨leftClause, rightClause, rfl, rfl, rfl⟩ := combine_eq_some_iff.1 hresult.symm
    have hqualifier : source.leftQualifier (some qualifier) = some qualifier := by
      rw [leftQualifier, hscope]
    rw [hqualifier] at hfirst
    rw [Pattern.units, List.forall_mem_append] at hunits
    have hleft := ihLeft hnest.1 hunits.1 hfirst
    have hright := ihRight hnest.2 hunits.2 hsecond
    simp only [Option.isNone_some, Bool.false_and, joined, Bool.false_eq_true, if_false,
      Clause.tokens]
    split
    · exact hleft.and hright
    · exact hleft.or hright
  | qualified inner own _ => exact hnest.elim

/-- A qualifier that reaches each observation keeps records out of its time range from the
predicate, when no unit of the pattern becomes a bare disjunction: the predicate is made up of
tokens, with atoms of the pattern, that denote a formula, and the formula is false where the
time range is. -/
theorem predicate_excludes_out_of_range {text : String} (hscope : source.scope = .each)
    (hconnects : source.Connects pattern) (hunqualified : pattern.IsUnqualified)
    (hunits : ∀ unit ∈ pattern.units, source.isOrShaped unit = false)
    (hrange : qualifier.range = .ok range)
    (htext : source.predicate (.qualified pattern qualifier) = .ok text) (hne : text ≠ "") :
    ∃ tokens formula, Token.concat tokens = text ∧
      (∀ part, .atom part ∈ tokens → source.IsAtomOf pattern part) ∧
      Formula.parse? tokens = some formula ∧
      ∀ truth, truth (.within source.timeColumn range) = false → formula.eval truth = false := by
  obtain ⟨result, hresult, rfl⟩ := predicate_eq_ok_iff.1 htext
  cases result with
  | none => exact absurd rfl hne
  | some clause =>
    have hclause : source.clause pattern (some qualifier) = .ok (some clause) := hresult
    have hconcat := Clause.concat_tokens_of_connected (connected_of_clause hconnects hclause)
    have hatoms := (builtFrom_of_clause hclause).isAtomOf
    obtain ⟨formula, hparse, hfalse⟩ :=
      (requires_of_clause hscope hrange hunqualified.isNest hunits hclause).exists_parse?
    exact ⟨clause.tokens, formula, hconcat, hatoms, hparse, hfalse⟩

/-- A file of one of two names. -/
def oneOfTwoNames : Pattern :=
  .combined .or (nameIs "a") (nameIs "b")

/-- An observation of a file and a port, or one of another port. -/
def groupedObservations : Pattern :=
  .combinedObservation .or
    (.observation (.combined .and oneOfTwoNames (.comparison portTest)))
    (.observation (.comparison ⟨"network-traffic:dst_port", .equal, .integer 22, true⟩))

/-- The predicate of two observations on a day, a group and a negation, is read as a formula, which
fails for any record of another day. -/
theorem predicate_excludes_out_of_range_sample :
    ∃ text tokens formula,
      (DataSource.sample .each).predicate (.qualified groupedObservations dayQualifier) =
        .ok text ∧
      Token.concat tokens = text ∧
      (∀ part, .atom part ∈ tokens →
        (DataSource.sample .each).IsAtomOf groupedObservations part) ∧
      Formula.parse? tokens = some formula ∧
      ∀ truth, truth (.within defaultTimeColumn dayRange) = false →
        formula.eval truth = false := by
  have hconnects : (DataSource.sample .each).Connects groupedObservations := by
    refine ⟨standardWords_sample .each, fun left right hmem => ?_⟩
    simp [groupedObservations, oneOfTwoNames, nameIs, Pattern.subpatterns] at hmem
  have hunqualified : groupedObservations.IsUnqualified := by
    simp [Pattern.IsUnqualified, groupedObservations, oneOfTwoNames, nameIs, Pattern.subpatterns]
  have hunits : ∀ unit ∈ groupedObservations.units,
      (DataSource.sample .each).isOrShaped unit = false := by
    decide +kernel
  have htext : (DataSource.sample .each).predicate (.qualified groupedObservations dayQualifier) =
      .ok ("(filename = 'a' OR filename = 'b' AND source_port > 1024) " ++
        "AND (entry_time >= 1577836800000 AND entry_time <= 1577923200000) OR " ++
        "NOT(dest_port = '22') " ++
        "AND (entry_time >= 1577836800000 AND entry_time <= 1577923200000)") := by
    decide +kernel
  obtain ⟨tokens, formula, hformula⟩ := predicate_excludes_out_of_range rfl hconnects
    hunqualified hunits range_dayQualifier htext (by decide)
  exact ⟨_, tokens, formula, htext, hformula⟩

/-- A time range behind a bare disjunction keeps nothing out that passes the first disjunct: a
record of any time passes the predicate of one of two names in a time range. -/
theorem exists_passes_out_of_range :
    oneOfTwoNames.IsUnqualified ∧
      ∃ tokens formula,
        (DataSource.sample .each).predicate
          (.qualified (.observation oneOfTwoNames) dayQualifier) = .ok (Token.concat tokens) ∧
        tokens = [.atom (.test "filename" "=" "'a'"), .or, .atom (.test "filename" "=" "'b'"),
          .and, .atom (.within defaultTimeColumn dayRange)] ∧
        Formula.parse? tokens = some formula ∧
        ∃ truth, truth (.within defaultTimeColumn dayRange) = false ∧
          formula.eval truth = true := by
  refine ⟨by simp [Pattern.IsUnqualified, oneOfTwoNames, nameIs, Pattern.subpatterns], _, _, ?_,
    rfl, rfl, fun part => part = .test "filename" "=" "'a'", ?_, ?_⟩
  · decide +kernel
  · simp
  · simp [Formula.eval, Formula.Frame.close, Formula.Frame.disjoin, Formula.Frame.conjoin]

end DataSource

end PatternSql
