import PatternSql.Proofs.Normalization

/-!
# Faults of patterns

Which patterns have no predicate, and what is said about them.

A data source has to support every node of a pattern, whatever becomes of the clauses
around it: compilation looks at both sides of a combination before it finds that one of
them has no clause.  `DataSource.Supports` is what it asks of a node, and
`DataSource.FaultIn` lists the faults that a pattern can really have.

The qualifiers of a pattern are asked for less than its other nodes: a qualifier that no
unit receives is never read.  So a pattern whose qualifiers can all be read compiles when
its nodes are supported, and one that compiles has supported nodes.
-/

namespace PatternSql

/-! ### Qualifiers -/

namespace Qualifier

/-- A text that a qualifier has for a bound: the first or the second one between single quotes. -/
def IsBound (qualifier : Qualifier) (text : String) : Prop :=
  ∃ piece, ((Text.pieces '\x27' qualifier.text.toList)[1]? = some piece ∨
    (Text.pieces '\x27' qualifier.text.toList)[3]? = some piece) ∧ text = String.ofList piece

/-- A qualifier without a range lacks a bound, or has one that is no timestamp. -/
lemma eq_or_isBound_of_range_eq_error {qualifier : Qualifier} {fault : Fault}
    (h : qualifier.range = .error fault) :
    fault = .malformedQualifier qualifier.text ∨
      ∃ text, qualifier.IsBound text ∧ Timestamp.millis? text = none ∧
        fault = .malformedTimestamp text := by
  unfold range at h
  split at h
  · rename_i before start between stop after hpieces
    right
    rw [bind_eq_error_iff] at h
    rcases h with hstart | ⟨start', _, h⟩
    · obtain ⟨hmillis, rfl⟩ := Temporal.millis_eq_error_iff.1 hstart
      exact ⟨_, ⟨start, .inl (by simp [hpieces]), rfl⟩, hmillis, rfl⟩
    · rw [bind_eq_error_iff] at h
      rcases h with hstop | ⟨stop', _, h⟩
      · obtain ⟨hmillis, rfl⟩ := Temporal.millis_eq_error_iff.1 hstop
        exact ⟨_, ⟨stop, .inr (by simp [hpieces]), rfl⟩, hmillis, rfl⟩
      · simp at h
  · left
    rw [Except.error.injEq] at h
    exact h.symm

end Qualifier

namespace DataSource

variable {source : DataSource}

/-- Restricting a clause fails only for the qualifier. -/
lemma restrict_eq_error_iff {clause : Option Clause} {qualifier : Option Qualifier}
    {fault : Fault} :
    source.restrict clause qualifier = .error fault ↔
      ∃ own, qualifier = some own ∧ own.range = .error fault := by
  cases qualifier with
  | none => simp
  | some own =>
    unfold restrict
    rw [bind_eq_error_iff]
    simp

/-- The left one of two observations is given no qualifier but that of both. -/
lemma eq_some_of_leftQualifier {qualifier : Option Qualifier} {own : Qualifier}
    (h : source.leftQualifier qualifier = some own) : qualifier = some own := by
  unfold leftQualifier at h
  split at h
  · simp at h
  · exact h

/-! ### Supported nodes -/

/-- What a data source has to offer for a node itself, and what the node has to bring: a word for
its operator, a path with a colon, and a literal that can be normalised where the field holds
times. -/
def Supports (source : DataSource) : Pattern → Prop
  | .comparison test =>
    (∃ word, source.mapping.word? test.comparator.key = some word) ∧ ':' ∈ test.path.toList ∧
      ∀ field, test.field? = some field → Temporal.isTemporal field.name = true →
        ∃ literal, Temporal.normalize test.value = .ok literal
  | .combined connective _ _ => ∃ word, source.mapping.word? connective.key = some word
  | .observation _ => True
  | .combinedObservation connective _ _ =>
    ∃ word, source.mapping.word? connective.key = some word
  | .qualified _ _ => True

/-- A comparison compiles exactly when it is supported. -/
lemma exists_comparisonClause_eq_ok_iff {test : Comparison} :
    (∃ clause, source.comparisonClause test = .ok clause) ↔
      source.Supports (.comparison test) := by
  simp only [comparisonClause_eq_ok_iff, Supports]
  constructor
  · rintro ⟨clause, field, word, literal, hfield, hword, hliteral, rfl⟩
    refine ⟨⟨word, hword⟩, ?_, ?_⟩
    · by_contra hcolon
      have hnone : test.field? = none := Field.ofPath?_eq_none_iff.2 hcolon
      simp [hnone] at hfield
    · intro field' hfield' htemporal
      obtain rfl : field = field' := Option.some.inj (hfield.symm.trans hfield')
      rw [Temporal.literalFor, if_pos htemporal] at hliteral
      exact ⟨literal, hliteral⟩
  · rintro ⟨⟨word, hword⟩, hcolon, hnormalize⟩
    cases hfield : test.field? with
    | none => exact absurd hcolon (Field.ofPath?_eq_none_iff.1 hfield)
    | some field =>
      have hliteral : ∃ literal, Temporal.literalFor field.name test.value = .ok literal := by
        unfold Temporal.literalFor
        split
        · exact hnormalize field hfield ‹_›
        · exact ⟨_, rfl⟩
      obtain ⟨literal, hliteral⟩ := hliteral
      exact ⟨_, field, word, literal, rfl, hword, hliteral, rfl⟩

/-- Every node of a pattern that compiles is supported. -/
lemma supports_of_clause_eq_ok {pattern : Pattern} {qualifier : Option Qualifier}
    {result : Option Clause} (h : source.clause pattern qualifier = .ok result) :
    ∀ node ∈ pattern.subpatterns, source.Supports node := by
  induction pattern generalizing qualifier result with
  | comparison test =>
    obtain ⟨inner, hinner, _⟩ := clause_comparison_eq_ok_iff.1 h
    have htest := exists_comparisonClause_eq_ok_iff.1 ⟨inner, hinner⟩
    simpa [Pattern.subpatterns] using htest
  | combined connective left right ihLeft ihRight =>
    obtain ⟨word, first, second, hword, hfirst, hsecond, _⟩ := clause_combined_eq_ok_iff.1 h
    simp only [Pattern.subpatterns, List.forall_mem_cons, List.forall_mem_append]
    exact ⟨⟨word, hword⟩, ihLeft hfirst, ihRight hsecond⟩
  | observation inner ih =>
    simp only [Pattern.subpatterns, List.forall_mem_cons]
    exact ⟨trivial, ih h⟩
  | combinedObservation connective left right ihLeft ihRight =>
    obtain ⟨word, first, second, hword, hfirst, hsecond, _⟩ :=
      clause_combinedObservation_eq_ok_iff.1 h
    simp only [Pattern.subpatterns, List.forall_mem_cons, List.forall_mem_append]
    exact ⟨⟨word, hword⟩, ihLeft hfirst, ihRight hsecond⟩
  | qualified inner own ih =>
    simp only [Pattern.subpatterns, List.forall_mem_cons]
    exact ⟨trivial, ih h⟩

/-- A clause can be restricted by a qualifier that has a range. -/
lemma exists_restrict_eq_ok (source : DataSource) {qualifier : Option Qualifier}
    (h : ∀ own, qualifier = some own → ∃ range, own.range = .ok range) (clause : Option Clause) :
    ∃ result, source.restrict clause qualifier = .ok result := by
  cases qualifier with
  | none => exact ⟨clause, rfl⟩
  | some own =>
    obtain ⟨range, hrange⟩ := h own rfl
    exact ⟨_, restrict_some_eq_ok_iff.2 ⟨range, hrange, rfl⟩⟩

/-- A pattern compiles when its nodes are supported and its qualifiers have ranges, those it is
given from above included. -/
lemma exists_clause_eq_ok {pattern : Pattern} {qualifier : Option Qualifier}
    (hnodes : ∀ node ∈ pattern.subpatterns, source.Supports node)
    (hranges : ∀ inner own, .qualified inner own ∈ pattern.subpatterns →
      ∃ range, own.range = .ok range)
    (hqualifier : ∀ own, qualifier = some own → ∃ range, own.range = .ok range) :
    ∃ result, source.clause pattern qualifier = .ok result := by
  -- the qualifier varies: a node is given none, its own, or that of a node above it
  induction pattern generalizing qualifier with
  | comparison test =>
    have htest := hnodes _ (Pattern.mem_subpatterns_self _)
    obtain ⟨inner, hinner⟩ := exists_comparisonClause_eq_ok_iff.2 htest
    obtain ⟨result, hresult⟩ := exists_restrict_eq_ok source hqualifier inner
    exact ⟨result, clause_comparison_eq_ok_iff.2 ⟨inner, hinner, hresult⟩⟩
  | combined connective left right ihLeft ihRight =>
    simp only [Pattern.subpatterns, List.forall_mem_cons, List.forall_mem_append] at hnodes
    simp only [Pattern.subpatterns, List.mem_cons, List.mem_append, reduceCtorEq, false_or]
      at hranges
    obtain ⟨⟨word, hword⟩, hleft, hright⟩ := hnodes
    obtain ⟨first, hfirst⟩ : ∃ first, source.clause left none = .ok first :=
      ihLeft hleft (fun inner own hmem => hranges inner own (.inl hmem)) (by simp)
    obtain ⟨second, hsecond⟩ : ∃ second, source.clause right none = .ok second :=
      ihRight hright (fun inner own hmem => hranges inner own (.inr hmem)) (by simp)
    cases hcombine : combine (connective == .and) word first second with
    | none =>
      exact ⟨none, clause_combined_eq_ok_iff.2
        ⟨word, first, second, hword, hfirst, hsecond, .inl ⟨hcombine, rfl⟩⟩⟩
    | some inner =>
      obtain ⟨result, hresult⟩ := exists_restrict_eq_ok source hqualifier (some inner)
      exact ⟨result, clause_combined_eq_ok_iff.2
        ⟨word, first, second, hword, hfirst, hsecond, .inr ⟨inner, hcombine, hresult⟩⟩⟩
  | observation inner ih =>
    simp only [Pattern.subpatterns, List.forall_mem_cons] at hnodes
    simp only [Pattern.subpatterns, List.mem_cons, reduceCtorEq, false_or] at hranges
    exact ih hnodes.2 hranges hqualifier
  | combinedObservation connective left right ihLeft ihRight =>
    simp only [Pattern.subpatterns, List.forall_mem_cons, List.forall_mem_append] at hnodes
    simp only [Pattern.subpatterns, List.mem_cons, List.mem_append, reduceCtorEq, false_or]
      at hranges
    obtain ⟨⟨word, hword⟩, hleft, hright⟩ := hnodes
    obtain ⟨first, hfirst⟩ := ihLeft hleft (fun inner own hmem => hranges inner own (.inl hmem))
      (fun own hown => hqualifier own (eq_some_of_leftQualifier hown))
    obtain ⟨second, hsecond⟩ := ihRight hright
      (fun inner own hmem => hranges inner own (.inr hmem)) hqualifier
    exact ⟨_, clause_combinedObservation_eq_ok_iff.2
      ⟨word, first, second, hword, hfirst, hsecond, rfl⟩⟩
  | qualified inner own ih =>
    have hown := hranges inner own (Pattern.mem_subpatterns_self _)
    simp only [Pattern.subpatterns, List.forall_mem_cons] at hnodes
    refine ih hnodes.2 (fun inner' own' hmem => hranges inner' own' ?_) ?_
    · exact List.mem_cons_of_mem _ hmem
    · rintro own' ⟨⟩
      exact hown

/-! ### Reported faults -/

/-- A fault that a pattern has with respect to a data source. -/
inductive FaultIn (source : DataSource) (pattern : Pattern) : Fault → Prop
  /-- A node carries an operator for which there is no word. -/
  | operator {node : Pattern} {key : String} (hnode : node ∈ pattern.subpatterns)
    (hkey : node.operatorKey? = some key) (hword : source.mapping.word? key = none) :
    FaultIn source pattern (.unsupportedOperator key)
  /-- The path of a comparison has no colon. -/
  | path {test : Comparison} (htest : .comparison test ∈ pattern.subpatterns)
    (hcolon : ':' ∉ test.path.toList) : FaultIn source pattern (.malformedObjectPath test.path)
  /-- A member of the literal of a comparison on a field that holds times cannot be normalised. -/
  | timestamp {test : Comparison} {field : Field} {member : Literal}
    (htest : .comparison test ∈ pattern.subpatterns) (hfield : test.field? = some field)
    (htemporal : Temporal.isTemporal field.name = true) (hmember : member ∈ test.value.scalars)
    (hfault : ¬∃ result, Temporal.normalize member = .ok result) :
    FaultIn source pattern (.malformedTimestamp member.display)
  /-- A bound of a qualifier is no timestamp. -/
  | bound {inner : Pattern} {own : Qualifier} {text : String}
    (hown : .qualified inner own ∈ pattern.subpatterns) (hbound : own.IsBound text)
    (hfault : Timestamp.millis? text = none) :
    FaultIn source pattern (.malformedTimestamp text)
  /-- A qualifier lacks a bound. -/
  | qualifier {inner : Pattern} {own : Qualifier}
    (hown : .qualified inner own ∈ pattern.subpatterns)
    (hfault : own.range = .error (.malformedQualifier own.text)) :
    FaultIn source pattern (.malformedQualifier own.text)

/-- A fault of a part of a pattern is a fault of the pattern. -/
lemma FaultIn.mono {pattern part : Pattern} {fault : Fault} (hpart : part ∈ pattern.subpatterns)
    (h : source.FaultIn part fault) : source.FaultIn pattern fault := by
  have hnodes : ∀ node ∈ part.subpatterns, node ∈ pattern.subpatterns :=
    fun node hnode => Pattern.mem_subpatterns_trans hnode hpart
  cases h with
  | operator hnode hkey hword => exact .operator (hnodes _ hnode) hkey hword
  | path htest hcolon => exact .path (hnodes _ htest) hcolon
  | timestamp htest hfield htemporal hmember hfault =>
    exact .timestamp (hnodes _ htest) hfield htemporal hmember hfault
  | bound hown hbound hfault => exact .bound (hnodes _ hown) hbound hfault
  | qualifier hown hfault => exact .qualifier (hnodes _ hown) hfault

/-- What is wrong with the range of a qualifier is a fault of the pattern that it qualifies. -/
lemma faultIn_of_range_eq_error {inner : Pattern} {own : Qualifier} {fault : Fault}
    (h : own.range = .error fault) : source.FaultIn (.qualified inner own) fault := by
  have hself := Pattern.mem_subpatterns_self (.qualified inner own)
  rcases Qualifier.eq_or_isBound_of_range_eq_error h with rfl | ⟨text, hbound, hmillis, rfl⟩
  · exact .qualifier hself h
  · exact .bound hself hbound hmillis

/-- What is reported about a comparison is a fault that it has. -/
lemma faultIn_of_comparisonClause_eq_error {test : Comparison} {fault : Fault}
    (h : source.comparisonClause test = .error fault) :
    source.FaultIn (.comparison test) fault := by
  have hself := Pattern.mem_subpatterns_self (.comparison test)
  unfold comparisonClause at h
  cases hfield : test.field? with
  | none =>
    simp only [hfield, Except.error.injEq] at h
    subst h
    exact .path hself (Field.ofPath?_eq_none_iff.1 hfield)
  | some field =>
    simp only [hfield, bind_eq_error_iff] at h
    rcases h with hword | ⟨word, _, hliteral | ⟨literal, _, h⟩⟩
    · obtain ⟨hnone, rfl⟩ := word_eq_error_iff.1 hword
      exact .operator hself rfl hnone
    · obtain ⟨htemporal, hnormalize⟩ := Temporal.literalFor_eq_error_iff.1 hliteral
      obtain ⟨scalar, hscalar, rfl⟩ := Temporal.normalize_eq_error_iff.1 hnormalize
      refine .timestamp hself hfield htemporal (List.mem_of_find?_eq_some hscalar) ?_
      rintro ⟨result, hresult⟩
      simp [Temporal.normalize_firstFault hscalar] at hresult
    · simp at h

/-- What is reported about a pattern is a fault that it has, or one of the qualifier that it is
given from above. -/
lemma faultIn_or_of_clause_eq_error {pattern : Pattern} {qualifier : Option Qualifier}
    {fault : Fault} (h : source.clause pattern qualifier = .error fault) :
    source.FaultIn pattern fault ∨ ∃ own, qualifier = some own ∧ own.range = .error fault := by
  induction pattern generalizing qualifier with
  | comparison test =>
    rw [clause, bind_eq_error_iff] at h
    rcases h with hleaf | ⟨inner, _, hrestrict⟩
    · exact .inl (faultIn_of_comparisonClause_eq_error hleaf)
    · exact .inr (restrict_eq_error_iff.1 hrestrict)
  | combined connective left right ihLeft ihRight =>
    simp only [clause, bind_eq_error_iff] at h
    rcases h with hword | ⟨word, _, hfirst | ⟨first, _, hsecond | ⟨second, _, h⟩⟩⟩
    · obtain ⟨hnone, rfl⟩ := word_eq_error_iff.1 hword
      exact .inl (.operator (Pattern.mem_subpatterns_self _) rfl hnone)
    · have hleft := (ihLeft hfirst).resolve_right (by simp)
      exact .inl (hleft.mono (by simp [Pattern.subpatterns]))
    · have hright := (ihRight hsecond).resolve_right (by simp)
      exact .inl (hright.mono (by simp [Pattern.subpatterns]))
    · split at h
      · simp at h
      · exact .inr (restrict_eq_error_iff.1 h)
  | observation inner ih =>
    refine (ih h).imp_left fun hinner => hinner.mono ?_
    simp [Pattern.subpatterns]
  | combinedObservation connective left right ihLeft ihRight =>
    simp only [clause, bind_eq_error_iff] at h
    rcases h with hword | ⟨word, _, hfirst | ⟨first, _, hsecond | ⟨second, _, h⟩⟩⟩
    · obtain ⟨hnone, rfl⟩ := word_eq_error_iff.1 hword
      exact .inl (.operator (Pattern.mem_subpatterns_self _) rfl hnone)
    · rcases ihLeft hfirst with hleft | ⟨own, hown, hrange⟩
      · exact .inl (hleft.mono (by simp [Pattern.subpatterns]))
      · exact .inr ⟨own, eq_some_of_leftQualifier hown, hrange⟩
    · refine (ihRight hsecond).imp_left fun hright => hright.mono ?_
      simp [Pattern.subpatterns]
    · simp at h
  | qualified inner own ih =>
    left
    rcases ih h with hinner | ⟨own', hown', hrange⟩
    · exact hinner.mono (by simp [Pattern.subpatterns])
    · obtain rfl : own = own' := Option.some.inj hown'
      exact faultIn_of_range_eq_error hrange

/-- A node that is not supported, wherever it stands, fails the compilation of a pattern: its
operator is unknown, its path has no colon, or its value is no time where it has to be one.  A
pattern with supported nodes and with qualifiers that can all be read has a predicate, and a fault
that is reported is one that the pattern has.  A qualifier that cannot be read need not fail the
compilation, because not every qualifier is read. -/
theorem predicate_fails_for_faults (source : DataSource) (pattern : Pattern) :
    (∀ text, source.predicate pattern = .ok text →
      ∀ node ∈ pattern.subpatterns, source.Supports node) ∧
    ((∀ node ∈ pattern.subpatterns, source.Supports node) →
      (∀ inner own, .qualified inner own ∈ pattern.subpatterns →
        ∃ range, own.range = .ok range) →
      ∃ text, source.predicate pattern = .ok text) ∧
    ∀ fault, source.predicate pattern = .error fault → source.FaultIn pattern fault := by
  refine ⟨?_, ?_, ?_⟩
  · intro text htext
    obtain ⟨result, hresult, _⟩ := predicate_eq_ok_iff.1 htext
    exact supports_of_clause_eq_ok hresult
  · intro hnodes hranges
    obtain ⟨result, hresult⟩ : ∃ result, source.clause pattern none = .ok result :=
      exists_clause_eq_ok hnodes hranges (by simp)
    exact ⟨_, predicate_eq_ok_iff.2 ⟨result, hresult, rfl⟩⟩
  · intro fault hfault
    rw [predicate, map_eq_error_iff] at hfault
    exact (faultIn_or_of_clause_eq_error hfault).resolve_right (by simp)

/-- A time in a time range. -/
def timedPattern : Pattern :=
  .qualified
    (.observation
      (.comparison ⟨"file:created", .greaterThan, .string "2020-01-01T00:00:00Z", false⟩))
    dayQualifier

/-- A field that has no column, or a path that is none. -/
def pathlessPattern : Pattern :=
  .combined .or
    (.comparison ⟨"file:size", .equal, .integer 3, false⟩)
    (.comparison ⟨"name", .equal, .string "evil", false⟩)

/-- The time in a time range has a predicate, and the path without a colon is reported, although the
field beside it has no column. -/
theorem predicate_fails_for_faults_sample :
    (∃ text, (DataSource.sample .last).predicate timedPattern = .ok text) ∧
      (DataSource.sample .last).predicate pathlessPattern =
        .error (.malformedObjectPath "name") ∧
      (DataSource.sample .last).FaultIn pathlessPattern (.malformedObjectPath "name") := by
  have hnodes : ∀ node ∈ timedPattern.subpatterns, (DataSource.sample .last).Supports node := by
    have hword : (DataSource.sample .last).mapping.word? Comparator.greaterThan.key = some ">" := by
      decide +kernel
    have hinstant : (Literal.string "2020-01-01T00:00:00Z").isInstant = true := by
      decide +kernel
    have hnormal := Temporal.exists_normalize_eq_ok (.string "2020-01-01T00:00:00Z")
      (by simp [Literal.firstFault?, Literal.scalars, hinstant])
    simp only [timedPattern, Pattern.subpatterns, List.forall_mem_cons, Supports]
    exact ⟨trivial, trivial, ⟨⟨_, hword⟩, by decide, fun _ _ _ => hnormal⟩, by simp⟩
  have hranges : ∀ inner own, .qualified inner own ∈ timedPattern.subpatterns →
      ∃ range, own.range = .ok range := by
    intro inner own hmem
    simp only [timedPattern, Pattern.subpatterns, List.mem_cons, List.not_mem_nil, reduceCtorEq,
      Pattern.qualified.injEq, or_false] at hmem
    obtain ⟨_, rfl⟩ := hmem
    exact ⟨dayRange, range_dayQualifier⟩
  have hfault : (DataSource.sample .last).predicate pathlessPattern =
      .error (.malformedObjectPath "name") := by
    decide +kernel
  obtain ⟨_, hok, _⟩ := predicate_fails_for_faults (DataSource.sample .last) timedPattern
  obtain ⟨_, _, herror⟩ := predicate_fails_for_faults (DataSource.sample .last) pathlessPattern
  exact ⟨hok hnodes hranges, hfault, herror _ hfault⟩

end DataSource

end PatternSql
