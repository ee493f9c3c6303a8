import PatternSql.Pattern.Assembly
import PatternSql.Predicate.Compile
import Mathlib.Control.Monad.Basic
import Mathlib.Tactic.ByContra
import Mathlib.Tactic.Lemma

/-!
# Patterns, node by node

What the compilation of a pattern does at each kind of node, and what every clause is
built from.

`Pattern.subpatterns` lists a pattern and everything below it, so that a statement about
"every node of a pattern" is one about membership in this list.  The lemmas
`clause_comparison_eq_ok_iff`, `clause_combined_eq_ok_iff` and
`clause_combinedObservation_eq_ok_iff` say once what a successful compilation of a node has
done; later proofs use them in place of the definition.  `Clause.BuiltFrom` is the
invariant that they give over a whole pattern: a clause consists of tests of the
pattern's comparisons, of time ranges over the time column, and of known words between them.
-/

namespace PatternSql

/-! ### Sequences that may fail -/

section Sequence

variable {α β : Type} {run : Except Fault α} {next : α → Except Fault β}

/-- A sequence succeeds exactly when both of its steps do. -/
lemma bind_eq_ok_iff {result : β} :
    run >>= next = .ok result ↔ ∃ value, run = .ok value ∧ next value = .ok result := by
  cases run with
  | error fault => simp [bind, Except.bind]
  | ok value => simp [bind, Except.bind]

/-- A sequence fails with the fault of its first step that fails. -/
lemma bind_eq_error_iff {fault : Fault} :
    run >>= next = .error fault ↔
      run = .error fault ∨ ∃ value, run = .ok value ∧ next value = .error fault := by
  cases run with
  | error other => simp [bind, Except.bind]
  | ok value => simp [bind, Except.bind]

/-- A step with a function applied to its result succeeds exactly when the step does. -/
lemma map_eq_ok_iff {f : α → β} {result : β} :
    run.map f = .ok result ↔ ∃ value, run = .ok value ∧ f value = result := by
  cases run with
  | error fault => simp [Except.map]
  | ok value => simp [Except.map]

/-- A function applied to the result of a step leaves its fault as it is. -/
lemma map_eq_error_iff {f : α → β} {fault : Fault} :
    run.map f = .error fault ↔ run = .error fault := by
  cases run with
  | error other => simp [Except.map]
  | ok value => simp [Except.map]

end Sequence

/-! ### The nodes of a pattern -/

namespace Pattern

/-- A pattern and all patterns below it, each before what stands below it. -/
def subpatterns : Pattern → List Pattern
  | .comparison test => [.comparison test]
  | .combined connective left right =>
    .combined connective left right :: (left.subpatterns ++ right.subpatterns)
  | .observation inner => .observation inner :: inner.subpatterns
  | .combinedObservation connective left right =>
    .combinedObservation connective left right :: (left.subpatterns ++ right.subpatterns)
  | .qualified inner qualifier => .qualified inner qualifier :: inner.subpatterns

/-- The key of the operator that a node itself carries. -/
def operatorKey? : Pattern → Option String
  | .comparison test => some test.comparator.key
  | .combined connective _ _ => some connective.key
  | .observation _ => none
  | .combinedObservation connective _ _ => some connective.key
  | .qualified _ _ => none

/-- A pattern without qualifiers in it. -/
def IsUnqualified (pattern : Pattern) : Prop :=
  ∀ inner own, .qualified inner own ∉ pattern.subpatterns

/-- A pattern is among its own nodes. -/
@[simp] lemma mem_subpatterns_self (pattern : Pattern) : pattern ∈ pattern.subpatterns := by
  cases pattern <;> simp [subpatterns]

/-- The nodes below a node of a pattern are nodes of the pattern. -/
lemma mem_subpatterns_trans {node part pattern : Pattern} (hnode : node ∈ part.subpatterns)
    (hpart : part ∈ pattern.subpatterns) : node ∈ pattern.subpatterns := by
  induction pattern with
  | comparison test =>
    obtain rfl := List.mem_singleton.1 hpart
    exact hnode
  | combined connective left right ihLeft ihRight =>
    simp only [subpatterns, List.mem_cons, List.mem_append] at hpart
    rcases hpart with rfl | hleft | hright
    · exact hnode
    · exact List.mem_cons_of_mem _ (List.mem_append_left _ (ihLeft hleft))
    · exact List.mem_cons_of_mem _ (List.mem_append_right _ (ihRight hright))
  | observation inner ih =>
    rcases List.mem_cons.1 hpart with rfl | hinner
    · exact hnode
    · exact List.mem_cons_of_mem _ (ih hinner)
  | combinedObservation connective left right ihLeft ihRight =>
    simp only [subpatterns, List.mem_cons, List.mem_append] at hpart
    rcases hpart with rfl | hleft | hright
    · exact hnode
    · exact List.mem_cons_of_mem _ (List.mem_append_left _ (ihLeft hleft))
    · exact List.mem_cons_of_mem _ (List.mem_append_right _ (ihRight hright))
  | qualified inner qualifier ih =>
    rcases List.mem_cons.1 hpart with rfl | hinner
    · exact hnode
    · exact List.mem_cons_of_mem _ (ih hinner)

/-- The nodes of a pattern without qualifiers are without qualifiers. -/
lemma IsUnqualified.of_mem {pattern part : Pattern} (h : pattern.IsUnqualified)
    (hpart : part ∈ pattern.subpatterns) : part.IsUnqualified :=
  fun inner own hmem => h inner own (mem_subpatterns_trans hmem hpart)

end Pattern

namespace DataSource

variable {source : DataSource}

/-! ### Comparisons -/

/-- The columns that a comparison of a field with a value goes to: for a reference those that
accept the shape of the value, for any other field all that hold it. -/
def applicable (source : DataSource) (field : Field) (value : Literal) : List String :=
  if isReference field.name then source.registry.route (source.mapping.columns field) value.display
  else source.mapping.columns field

/-- There is one test for each applicable column. -/
lemma tests_eq_map (field : Field) (value : Literal) (word operand : String) :
    source.tests field value word operand =
      (source.applicable field value).map (Clause.test · word operand) := by
  unfold tests applicable Registry.tests
  split <;> rfl

/-- Every applicable column holds the field. -/
lemma mem_columns_of_mem_applicable {field : Field} {value : Literal} {column : String}
    (h : column ∈ source.applicable field value) : column ∈ source.mapping.columns field := by
  unfold applicable Registry.route at h
  split at h
  · split at h
    · exact (List.mem_filter.1 h).1
    · simp at h
  · exact h

/-- A key has a word exactly when the mapping gives one. -/
lemma word_eq_ok_iff {key word : String} :
    source.word key = .ok word ↔ source.mapping.word? key = some word := by
  unfold DataSource.word
  cases source.mapping.word? key <;> simp

/-- A key without a word is the fault of an operator that is not supported. -/
lemma word_eq_error_iff {key : String} {fault : Fault} :
    source.word key = .error fault ↔
      source.mapping.word? key = none ∧ fault = .unsupportedOperator key := by
  unfold DataSource.word
  cases source.mapping.word? key <;> simp [eq_comm]

/-- The clause of a comparison whose field, word and literal are known. -/
def leafClause (source : DataSource) (test : Comparison) (field : Field) (word : String)
    (literal : Literal) : Option Clause :=
  let tests := (source.applicable field test.value).map
    (Clause.test · word (test.comparator.operand literal))
  let clause := fanOut (!isReference field.name) tests
  if test.negated then clause.map .negation else clause

/-- A comparison compiles exactly when its path has a field, its comparator has a word and its
literal can be normalised where that is needed. -/
lemma comparisonClause_eq_ok_iff {test : Comparison} {clause : Option Clause} :
    source.comparisonClause test = .ok clause ↔
      ∃ field word literal, test.field? = some field ∧
        source.mapping.word? test.comparator.key = some word ∧
        Temporal.literalFor field.name test.value = .ok literal ∧
        clause = source.leafClause test field word literal := by
  unfold comparisonClause
  cases hfield : test.field? with
  | none => simp
  | some field =>
    simp only [bind_eq_ok_iff, word_eq_ok_iff, tests_eq_map, Except.ok.injEq, Option.some.injEq]
    constructor
    · rintro ⟨word, hword, literal, hliteral, rfl⟩
      exact ⟨field, word, literal, rfl, hword, hliteral, rfl⟩
    · rintro ⟨_, word, literal, rfl, hword, hliteral, rfl⟩
      exact ⟨word, hword, literal, hliteral, rfl⟩

/-! ### Combinations and qualifiers -/

/-- Without a qualifier a clause is not restricted. -/
@[simp] lemma restrict_none (clause : Option Clause) :
    source.restrict clause none = .ok clause := rfl

/-- A clause is restricted exactly when its qualifier has a time range. -/
lemma restrict_some_eq_ok_iff {clause result : Option Clause} {qualifier : Qualifier} :
    source.restrict clause (some qualifier) = .ok result ↔
      ∃ range, qualifier.range = .ok range ∧
        result = clause.map fun inner => .join "AND" inner (.within source.timeColumn range) := by
  unfold restrict
  simp only [bind_eq_ok_iff, Except.ok.injEq, eq_comm (b := result)]

/-- Restricting keeps the absence of a clause. -/
lemma eq_none_iff_of_restrict {clause result : Option Clause} {qualifier : Option Qualifier}
    (h : source.restrict clause qualifier = .ok result) : result = none ↔ clause = none := by
  cases qualifier with
  | none =>
    rw [restrict_none, Except.ok.injEq] at h
    rw [h]
  | some qualifier =>
    obtain ⟨range, _, rfl⟩ := restrict_some_eq_ok_iff.1 h
    exact Option.map_eq_none_iff

/-- The clause of two joined clauses, between parentheses when it is grouped. -/
def joined (grouped : Bool) (word : String) (left right : Clause) : Clause :=
  if grouped then .group (.join word left right) else .join word left right

/-- Two clauses are combined exactly when there are two. -/
lemma combine_eq_some_iff {grouped : Bool} {word : String} {left right : Option Clause}
    {clause : Clause} :
    combine grouped word left right = some clause ↔
      ∃ first second, left = some first ∧ right = some second ∧
        clause = joined grouped word first second := by
  cases left <;> cases right <;> simp [combine, joined, eq_comm]

/-- A combination lacks a clause exactly when one of its parts does. -/
lemma combine_eq_none_iff {grouped : Bool} {word : String} {left right : Option Clause} :
    combine grouped word left right = none ↔ left = none ∨ right = none := by
  cases left <;> cases right <;> simp [combine]

/-! ### Compilation at each kind of node -/

/-- A comparison is compiled and then restricted. -/
lemma clause_comparison_eq_ok_iff {test : Comparison} {qualifier : Option Qualifier}
    {result : Option Clause} :
    source.clause (.comparison test) qualifier = .ok result ↔
      ∃ inner, source.comparisonClause test = .ok inner ∧
        source.restrict inner qualifier = .ok result := by
  rw [clause, bind_eq_ok_iff]

/-- A combination of comparisons is compiled without the qualifier, and then restricted if there
is anything to restrict. -/
lemma clause_combined_eq_ok_iff {connective : Connective} {left right : Pattern}
    {qualifier : Option Qualifier} {result : Option Clause} :
    source.clause (.combined connective left right) qualifier = .ok result ↔
      ∃ word first second, source.mapping.word? connective.key = some word ∧
        source.clause left none = .ok first ∧ source.clause right none = .ok second ∧
        (combine (connective == .and) word first second = none ∧ result = none ∨
          ∃ inner, combine (connective == .and) word first second = some inner ∧
            source.restrict (some inner) qualifier = .ok result) := by
  rw [clause]
  simp only [bind_eq_ok_iff, word_eq_ok_iff]
  constructor
  · rintro ⟨word, hword, first, hfirst, second, hsecond, h⟩
    refine ⟨word, first, second, hword, hfirst, hsecond, ?_⟩
    -- without a clause there is nothing to restrict, and the qualifier is not looked at
    cases hcombine : combine (connective == .and) word first second with
    | none =>
      rw [hcombine, Except.ok.injEq] at h
      exact .inl ⟨rfl, h.symm⟩
    | some inner =>
      rw [hcombine] at h
      exact .inr ⟨inner, rfl, h⟩
  · rintro ⟨word, first, second, hword, hfirst, hsecond, h⟩
    refine ⟨word, hword, first, hfirst, second, hsecond, ?_⟩
    rcases h with ⟨hnone, rfl⟩ | ⟨inner, hsome, hrestrict⟩
    · rw [hnone]
    · rw [hsome]
      exact hrestrict

/-- Combined observations are compiled with the qualifiers that they are given. -/
lemma clause_combinedObservation_eq_ok_iff {connective : ObservationConnective}
    {left right : Pattern} {qualifier : Option Qualifier} {result : Option Clause} :
    source.clause (.combinedObservation connective left right) qualifier = .ok result ↔
      ∃ word first second, source.mapping.word? connective.key = some word ∧
        source.clause left (source.leftQualifier qualifier) = .ok first ∧
        source.clause right qualifier = .ok second ∧
        result = combine (qualifier.isNone && connective == .and) word first second := by
  rw [clause]
  simp only [bind_eq_ok_iff, word_eq_ok_iff, Except.ok.injEq]
  constructor
  · rintro ⟨word, hword, first, hfirst, second, hsecond, rfl⟩
    exact ⟨word, first, second, hword, hfirst, hsecond, rfl⟩
  · rintro ⟨word, first, second, hword, hfirst, hsecond, rfl⟩
    exact ⟨word, hword, first, hfirst, second, hsecond, rfl⟩

/-- A pattern has a predicate exactly when it compiles. -/
lemma predicate_eq_ok_iff {pattern : Pattern} {text : String} :
    source.predicate pattern = .ok text ↔
      ∃ clause, source.clause pattern none = .ok clause ∧ Clause.textOf clause = text := by
  rw [predicate, map_eq_ok_iff]

/-! ### What a clause is built from -/

/-- Whether a test belongs to a comparison of a pattern: its column holds the field, its word is
that of the comparator, and its operand is that of the literal. -/
def IsTestOf (source : DataSource) (pattern : Pattern) (column word operand : String) : Prop :=
  ∃ test field literal, .comparison test ∈ pattern.subpatterns ∧ test.field? = some field ∧
    source.mapping.word? test.comparator.key = some word ∧
    Temporal.literalFor field.name test.value = .ok literal ∧
    column ∈ source.mapping.columns field ∧ operand = test.comparator.operand literal

/-- Whether a word may stand between clauses: one of the words for time ranges and fan-outs, or
one that the mapping gives. -/
def IsJoiner (source : DataSource) (word : String) : Prop :=
  word = "AND" ∨ word = "OR" ∨ ∃ key, source.mapping.word? key = some word

end DataSource

/-- A clause built from tests of a pattern, time ranges over the time column, and known words. -/
inductive Clause.BuiltFrom (source : DataSource) (pattern : Pattern) : Clause → Prop
  | test {column word operand : String} (h : source.IsTestOf pattern column word operand) :
    BuiltFrom source pattern (.test column word operand)
  | within (range : TimeRange) : BuiltFrom source pattern (.within source.timeColumn range)
  | join {word : String} {left right : Clause} (hword : source.IsJoiner word)
    (hleft : BuiltFrom source pattern left) (hright : BuiltFrom source pattern right) :
    BuiltFrom source pattern (.join word left right)
  | group {inner : Clause} (h : BuiltFrom source pattern inner) :
    BuiltFrom source pattern (.group inner)
  | negation {inner : Clause} (h : BuiltFrom source pattern inner) :
    BuiltFrom source pattern (.negation inner)

namespace Clause

variable {source : DataSource} {pattern : Pattern}

/-- What is built from a part of a pattern is built from the pattern. -/
lemma BuiltFrom.mono {part : Pattern} {clause : Clause} (hpart : part ∈ pattern.subpatterns)
    (h : clause.BuiltFrom source part) : clause.BuiltFrom source pattern := by
  induction h with
  | test h =>
    obtain ⟨test, field, literal, hmem, hrest⟩ := h
    exact .test ⟨test, field, literal, Pattern.mem_subpatterns_trans hmem hpart, hrest⟩
  | within range => exact .within range
  | join hword _ _ ihLeft ihRight => exact .join hword ihLeft ihRight
  | group _ ih => exact .group ih
  | negation _ ih => exact .negation ih

/-- A disjunction is built from what its parts are built from. -/
lemma BuiltFrom.anyOf? {clauses : List Clause} {clause : Clause}
    (hall : ∀ part ∈ clauses, part.BuiltFrom source pattern)
    (h : Clause.anyOf? clauses = some clause) : clause.BuiltFrom source pattern := by
  refine Clause.anyOf?_induction hall (fun left right hleft hright => ?_) h
  exact .join (.inr (.inl rfl)) hleft hright

/-- A fan-out is built from what its tests are built from. -/
lemma BuiltFrom.fanOut {grouped : Bool} {tests : List Clause} {clause : Clause}
    (hall : ∀ part ∈ tests, part.BuiltFrom source pattern)
    (h : DataSource.fanOut grouped tests = some clause) : clause.BuiltFrom source pattern := by
  obtain ⟨disjunction, hany, rfl⟩ := Option.map_eq_some_iff.1 h
  have hdisjunction := BuiltFrom.anyOf? hall hany
  split
  · exact .group hdisjunction
  · exact hdisjunction

/-- Two joined clauses are built from what each of them is built from. -/
lemma BuiltFrom.joined {grouped : Bool} {word : String} {left right : Clause}
    (hword : source.IsJoiner word) (hleft : left.BuiltFrom source pattern)
    (hright : right.BuiltFrom source pattern) :
    (DataSource.joined grouped word left right).BuiltFrom source pattern := by
  cases grouped with
  | false => exact .join hword hleft hright
  | true => exact .group (.join hword hleft hright)

/-- A restricted clause is built from what the clause is built from. -/
lemma BuiltFrom.restrict {clause : Option Clause} {qualifier : Option Qualifier} {result : Clause}
    (hclause : ∀ inner, clause = some inner → inner.BuiltFrom source pattern)
    (h : source.restrict clause qualifier = .ok (some result)) :
    result.BuiltFrom source pattern := by
  cases qualifier with
  | none => exact hclause result (by simpa using h)
  | some qualifier =>
    obtain ⟨range, _, hresult⟩ := DataSource.restrict_some_eq_ok_iff.1 h
    obtain ⟨inner, hinner, rfl⟩ := Option.map_eq_some_iff.1 hresult.symm
    exact .join (.inl rfl) (hclause inner hinner) (.within range)

/-- The clause of a comparison is built from the tests of the comparison. -/
lemma BuiltFrom.leafClause {test : Comparison} {field : Field} {word : String} {literal : Literal}
    {clause : Clause} (hfield : test.field? = some field)
    (hword : source.mapping.word? test.comparator.key = some word)
    (hliteral : Temporal.literalFor field.name test.value = .ok literal)
    (h : source.leafClause test field word literal = some clause) :
    clause.BuiltFrom source (.comparison test) := by
  have htests : ∀ part ∈ (source.applicable field test.value).map
      (Clause.test · word (test.comparator.operand literal)),
      part.BuiltFrom source (.comparison test) := by
    intro part hpart
    obtain ⟨column, hcolumn, rfl⟩ := List.mem_map.1 hpart
    exact .test ⟨test, field, literal, Pattern.mem_subpatterns_self _, hfield, hword, hliteral,
      DataSource.mem_columns_of_mem_applicable hcolumn, rfl⟩
  unfold DataSource.leafClause at h
  split at h
  · obtain ⟨inner, hinner, rfl⟩ := Option.map_eq_some_iff.1 h
    exact .negation (.fanOut htests hinner)
  · exact .fanOut htests h

end Clause

namespace DataSource

variable {source : DataSource}

/-- The clause of a pattern is built from the tests of its comparisons. -/
theorem builtFrom_of_clause {pattern : Pattern} {qualifier : Option Qualifier} {clause : Clause}
    (h : source.clause pattern qualifier = .ok (some clause)) :
    clause.BuiltFrom source pattern := by
  induction pattern generalizing qualifier clause with
  | comparison test =>
    obtain ⟨inner, hinner, hrestrict⟩ := clause_comparison_eq_ok_iff.1 h
    obtain ⟨field, word, literal, hfield, hword, hliteral, rfl⟩ :=
      comparisonClause_eq_ok_iff.1 hinner
    exact .restrict (fun _ hleaf => .leafClause hfield hword hliteral hleaf) hrestrict
  | combined connective left right ihLeft ihRight =>
    obtain ⟨word, first, second, hword, hfirst, hsecond, hcases⟩ :=
      clause_combined_eq_ok_iff.1 h
    rcases hcases with ⟨_, hnone⟩ | ⟨inner, hinner, hrestrict⟩
    · simp at hnone
    · obtain ⟨leftClause, rightClause, rfl, rfl, rfl⟩ := combine_eq_some_iff.1 hinner
      refine .restrict (fun _ hjoined => ?_) hrestrict
      rw [← Option.some.inj hjoined]
      exact .joined (.inr (.inr ⟨_, hword⟩))
        ((ihLeft hfirst).mono (by simp [Pattern.subpatterns]))
        ((ihRight hsecond).mono (by simp [Pattern.subpatterns]))
  | observation inner ih =>
    exact (ih h).mono (by simp [Pattern.subpatterns])
  | combinedObservation connective left right ihLeft ihRight =>
    obtain ⟨word, first, second, hword, hfirst, hsecond, hresult⟩ :=
      clause_combinedObservation_eq_ok_iff.1 h
    obtain ⟨leftClause, rightClause, rfl, rfl, rfl⟩ := combine_eq_some_iff.1 hresult.symm
    exact .joined (.inr (.inr ⟨_, hword⟩))
      ((ihLeft hfirst).mono (by simp [Pattern.subpatterns]))
      ((ihRight hsecond).mono (by simp [Pattern.subpatterns]))
  | qualified inner own ih =>
    exact (ih h).mono (by simp [Pattern.subpatterns])

/-! ### Parts of sample patterns

The patterns to which later results are applied ask for files by name, for an address and for a
port, within the first day of a year.
-/

/-- A comparison of the name of a file. -/
def nameTest (name : String) : Comparison :=
  .of "file:name" .equal (.string name)

/-- The field of a comparison of a name. -/
lemma field?_nameTest (name : String) : (nameTest name).field? = some ⟨"file", "name"⟩ := by
  have hpath : Field.ofPath? "file:name" = some ⟨"file", "name"⟩ := by decide
  exact hpath

/-- A file has a given name. -/
def nameIs (name : String) : Pattern :=
  .comparison (nameTest name)

/-- An observation of a file with a given name. -/
def fileNamed (name : String) : Pattern :=
  .observation (nameIs name)

/-- A comparison of the name of a file with a part of it, to fail. -/
def partialNameTest : Comparison :=
  .negate (.of "file:name" .like (.string "evil"))

/-- A comparison of an address, for which there are two columns. -/
def hostTest : Comparison :=
  .of "ipv4-addr:value" .equal (.string "10.0.0.1")

/-- A comparison of the port that traffic comes from. -/
def portTest : Comparison :=
  .of "network-traffic:src_port" .greaterThan (.integer 1024)

/-- The first day of a year. -/
def dayQualifier : Qualifier :=
  ⟨"START t'2020-01-01T00:00:00Z' STOP t'2020-01-02T00:00:00Z'"⟩

/-- The time range of that day. -/
def dayRange : TimeRange where
  start := 1577836800000
  stop := 1577923200000

/-- The qualifier of the day can be read, as that time range. -/
lemma range_dayQualifier : dayQualifier.range = .ok dayRange := by
  decide

end DataSource

end PatternSql
