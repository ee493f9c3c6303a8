import PatternSql.Proofs.Nodes

/-!
# What a predicate depends on

The predicate of a pattern is made of what a data source says about the fields, the operators
and the reference columns that stand in the pattern, and of nothing else that the data source
has.

Two compilations are compared node by node.  `clause_eq_clause_mapTests` does this once, for
two data sources and for two patterns that differ in their comparisons only: if the
comparisons have the same clauses, the connectives the same words, and time ranges are
treated alike, then the patterns have the same clause or the same fault.  Time ranges are
treated alike by data sources with one time column and one reach of qualifiers, and by any
two where there is no qualifier.
-/

namespace PatternSql

namespace Pattern

/-- A pattern with each of its comparisons changed. -/
def mapTests (change : Comparison → Comparison) : Pattern → Pattern
  | .comparison test => .comparison (change test)
  | .combined connective left right =>
    .combined connective (left.mapTests change) (right.mapTests change)
  | .observation inner => .observation (inner.mapTests change)
  | .combinedObservation connective left right =>
    .combinedObservation connective (left.mapTests change) (right.mapTests change)
  | .qualified inner qualifier => .qualified (inner.mapTests change) qualifier

/-- A pattern whose comparisons stay as they are stays as it is. -/
@[simp] lemma mapTests_id (pattern : Pattern) : pattern.mapTests id = pattern := by
  induction pattern with
  | comparison test => rfl
  | combined connective left right ihLeft ihRight => rw [mapTests, ihLeft, ihRight]
  | observation inner ih => rw [mapTests, ih]
  | combinedObservation connective left right ihLeft ihRight => rw [mapTests, ihLeft, ihRight]
  | qualified inner qualifier ih => rw [mapTests, ih]

end Pattern

namespace DataSource

variable {source other : DataSource}

/-! ### Two compilations side by side -/

/-- Whether two data sources treat the time ranges in a pattern alike, that of a qualifier from
above included. -/
def RestrictAlike (source other : DataSource) (pattern : Pattern) (qualifier : Option Qualifier) :
    Prop :=
  source.scope = other.scope ∧ source.timeColumn = other.timeColumn ∨
    pattern.IsUnqualified ∧ qualifier = none

/-- Data sources that treat the time ranges in a pattern alike do so for each node of it that is
given no other qualifier than the pattern. -/
lemma RestrictAlike.of_mem {pattern part : Pattern} {qualifier given : Option Qualifier}
    (h : source.RestrictAlike other pattern qualifier) (hpart : part ∈ pattern.subpatterns)
    (hgiven : qualifier = none → given = none) : source.RestrictAlike other part given := by
  rcases h with hsame | ⟨hunqualified, hnone⟩
  · exact .inl hsame
  · exact .inr ⟨hunqualified.of_mem hpart, hgiven hnone⟩

/-- Without a qualifier there is none for the left one of two observations. -/
@[simp] lemma leftQualifier_none (source : DataSource) : source.leftQualifier none = none := by
  unfold leftQualifier
  split <;> rfl

/-- Data sources that treat time ranges alike give the same qualifier to the left one of two
observations. -/
lemma RestrictAlike.leftQualifier_eq {pattern : Pattern} {qualifier : Option Qualifier}
    (h : source.RestrictAlike other pattern qualifier) :
    source.leftQualifier qualifier = other.leftQualifier qualifier := by
  rcases h with ⟨hscope, _⟩ | ⟨_, rfl⟩
  · unfold leftQualifier
    rw [hscope]
  · rw [leftQualifier_none, leftQualifier_none]

/-- Data sources that treat time ranges alike restrict clauses alike. -/
lemma RestrictAlike.restrict_eq {pattern : Pattern} {qualifier : Option Qualifier}
    (h : source.RestrictAlike other pattern qualifier) (clause : Option Clause) :
    source.restrict clause qualifier = other.restrict clause qualifier := by
  rcases h with ⟨_, hcolumn⟩ | ⟨_, rfl⟩
  · unfold restrict
    rw [hcolumn]
  · rw [restrict_none, restrict_none]

/-- The word for an operator is what the mapping says about its key. -/
lemma word_congr {key : String} (h : source.mapping.word? key = other.mapping.word? key) :
    source.word key = other.word key := by
  unfold DataSource.word
  rw [h]

/-- Patterns that differ in their comparisons only are compiled alike when their comparisons are,
when their connectives have the same words, and when their time ranges are treated alike. -/
theorem clause_eq_clause_mapTests {change : Comparison → Comparison} {pattern : Pattern}
    {qualifier : Option Qualifier}
    (htests : ∀ test, .comparison test ∈ pattern.subpatterns →
      source.comparisonClause test = other.comparisonClause (change test))
    (hwords : ∀ node ∈ pattern.subpatterns, ∀ key, node.operatorKey? = some key →
      source.mapping.word? key = other.mapping.word? key)
    (halike : source.RestrictAlike other pattern qualifier) :
    source.clause pattern qualifier = other.clause (pattern.mapTests change) qualifier := by
  induction pattern generalizing qualifier with
  | comparison test =>
    have htest := htests test (Pattern.mem_subpatterns_self _)
    simp only [Pattern.mapTests, clause, htest, halike.restrict_eq]
  | combined connective left right ihLeft ihRight =>
    have hword := word_congr (hwords _ (Pattern.mem_subpatterns_self _) _ rfl)
    simp only [Pattern.subpatterns, List.mem_cons, List.mem_append, reduceCtorEq, false_or]
      at htests hwords
    -- whatever qualifier the combination has, its parts are compiled without one
    have hleft : source.clause left none = other.clause (left.mapTests change) none :=
      ihLeft (fun test hmem => htests test (.inl hmem))
        (fun node hmem => hwords node (.inr (.inl hmem)))
        (halike.of_mem (by simp [Pattern.subpatterns]) fun _ => rfl)
    have hright : source.clause right none = other.clause (right.mapTests change) none :=
      ihRight (fun test hmem => htests test (.inr hmem))
        (fun node hmem => hwords node (.inr (.inr hmem)))
        (halike.of_mem (by simp [Pattern.subpatterns]) fun _ => rfl)
    simp only [Pattern.mapTests, clause, hword, hleft, hright, halike.restrict_eq]
  | observation inner ih =>
    simp only [Pattern.subpatterns, List.mem_cons, reduceCtorEq, false_or] at htests hwords
    rw [Pattern.mapTests, clause, clause]
    exact ih htests (fun node hmem => hwords node (.inr hmem))
      (halike.of_mem (by simp [Pattern.subpatterns]) id)
  | combinedObservation connective left right ihLeft ihRight =>
    have hword := word_congr (hwords _ (Pattern.mem_subpatterns_self _) _ rfl)
    simp only [Pattern.subpatterns, List.mem_cons, List.mem_append, reduceCtorEq, false_or]
      at htests hwords
    have hgiven : qualifier = none → other.leftQualifier qualifier = none := by
      rintro rfl
      exact leftQualifier_none other
    have hleft : source.clause left (other.leftQualifier qualifier) =
        other.clause (left.mapTests change) (other.leftQualifier qualifier) :=
      ihLeft (fun test hmem => htests test (.inl hmem))
        (fun node hmem => hwords node (.inr (.inl hmem)))
        (halike.of_mem (by simp [Pattern.subpatterns]) hgiven)
    have hright : source.clause right qualifier = other.clause (right.mapTests change) qualifier :=
      ihRight (fun test hmem => htests test (.inr hmem))
        (fun node hmem => hwords node (.inr (.inr hmem)))
        (halike.of_mem (by simp [Pattern.subpatterns]) id)
    simp only [Pattern.mapTests, clause, hword, halike.leftQualifier_eq, hleft, hright]
  | qualified inner own ih =>
    have hsame : source.scope = other.scope ∧ source.timeColumn = other.timeColumn := by
      rcases halike with hsame | ⟨hunqualified, _⟩
      · exact hsame
      · exact absurd (Pattern.mem_subpatterns_self _) (hunqualified inner own)
    simp only [Pattern.subpatterns, List.mem_cons, reduceCtorEq, false_or] at htests hwords
    rw [Pattern.mapTests, clause, clause]
    exact ih htests (fun node hmem => hwords node (.inr hmem)) (.inl hsame)

/-! ### The entries that a pattern uses -/

/-- What two data sources have in common when they say the same about all that stands in a
pattern. -/
structure AgreeOn (source other : DataSource) (pattern : Pattern) : Prop where
  /-- The fields of the pattern have the same columns. -/
  columns : ∀ test field, .comparison test ∈ pattern.subpatterns → test.field? = some field →
    source.mapping.columns field = other.mapping.columns field
  /-- The operators of the pattern have the same words, or none. -/
  words : ∀ node ∈ pattern.subpatterns, ∀ key, node.operatorKey? = some key →
    source.mapping.word? key = other.mapping.word? key
  /-- The columns of the references in the pattern accept the same shapes. -/
  shapes : ∀ test field, .comparison test ∈ pattern.subpatterns → test.field? = some field →
    isReference field.name = true → ∀ column ∈ source.mapping.columns field, ∀ shape,
      source.registry.accepts column shape = other.registry.accepts column shape

/-- Data sources that agree on a pattern agree on its nodes. -/
lemma AgreeOn.of_mem {pattern part : Pattern} (h : source.AgreeOn other pattern)
    (hpart : part ∈ pattern.subpatterns) : source.AgreeOn other part where
  columns test field htest := h.columns test field (Pattern.mem_subpatterns_trans htest hpart)
  words node hnode := h.words node (Pattern.mem_subpatterns_trans hnode hpart)
  shapes test field htest := h.shapes test field (Pattern.mem_subpatterns_trans htest hpart)

/-- Registries that accept the same shapes for given columns route texts alike. -/
lemma route_congr {registry changed : Registry} {columns : List String}
    (h : ∀ column ∈ columns, ∀ shape,
      registry.accepts column shape = changed.accepts column shape) (text : String) :
    registry.route columns text = changed.route columns text := by
  unfold Registry.route
  cases Shape.ofText? text with
  | none => rfl
  | some shape => exact List.filter_congr fun column hcolumn => h column hcolumn shape

/-- A comparison goes to the same tests in data sources that agree on its field. -/
lemma tests_congr {field : Field} {value : Literal} {word operand : String}
    (hcolumns : source.mapping.columns field = other.mapping.columns field)
    (hshapes : isReference field.name = true → ∀ column ∈ source.mapping.columns field, ∀ shape,
      source.registry.accepts column shape = other.registry.accepts column shape) :
    source.tests field value word operand = other.tests field value word operand := by
  unfold tests Registry.tests
  rw [← hcolumns]
  cases hreference : isReference field.name with
  | true => simp only [if_true, route_congr (hshapes hreference)]
  | false => rfl

/-- The comparisons of a pattern have the same clauses, or the same faults, in data sources that
agree on the pattern. -/
lemma AgreeOn.comparisonClause_eq {pattern : Pattern} {test : Comparison}
    (h : source.AgreeOn other pattern) (htest : .comparison test ∈ pattern.subpatterns) :
    source.comparisonClause test = other.comparisonClause test := by
  unfold comparisonClause
  cases hfield : test.field? with
  | none => rfl
  | some field =>
    have hword := word_congr (h.words _ htest _ rfl)
    have htests : ∀ word operand, source.tests field test.value word operand =
        other.tests field test.value word operand :=
      fun word operand => tests_congr (h.columns test field htest hfield)
        (h.shapes test field htest hfield)
    simp only [hword, htests]

/-- The predicate of a pattern, or its fault, depends only on what the data source says about the
pattern's fields, operators and reference columns, and, where the pattern has a qualifier, on the
time column and the reach of qualifiers. -/
theorem predicate_eq_of_agreeOn {pattern : Pattern} (hagree : source.AgreeOn other pattern)
    (htime : source.scope = other.scope ∧ source.timeColumn = other.timeColumn ∨
      pattern.IsUnqualified) :
    source.predicate pattern = other.predicate pattern := by
  have halike : source.RestrictAlike other pattern none := htime.imp_right fun h => ⟨h, rfl⟩
  have hclause : source.clause pattern none = other.clause (pattern.mapTests id) none :=
    clause_eq_clause_mapTests (fun test htest => hagree.comparisonClause_eq htest) hagree.words
      halike
  rw [Pattern.mapTests_id] at hclause
  rw [predicate, predicate, hclause]

/-- A comparison of a reference with an address. -/
def addressTest : Comparison :=
  ⟨"network-traffic:src_ref.value", .equal, .string "10.0.0.1", false⟩

/-- An address and not a name. -/
def addressPattern : Pattern :=
  .observation (.combined .and (.comparison addressTest) (.comparison partialNameTest))

/-- Of the sample mapping just what `addressPattern` uses, with other columns and words for the
rest. -/
def addressMapping : Mapping where
  fields := .ofList
    [("file", .ofList [("name", ["filename"]), ("size", ["bytes"])]),
      ("network-traffic", .ofList [("src_ref.value", ["source_ipaddr"])])]
  operators := .ofList
    [(Connective.and.key, "AND"), (Connective.or.key, "UNION"), (Comparator.equal.key, "="),
      (Comparator.like.key, "LIKE")]

/-- A data source that agrees with the sample event table on `addressPattern`. -/
def addressSource (scope : Scope) (timeColumn : String) : DataSource where
  mapping := addressMapping
  registry := Registry.empty.register "source_ipaddr" [.ipv6Cidr, .ipv6, .ipv4Cidr, .ipv4]
  timeColumn := timeColumn
  scope := scope

/-- The sample event table and `addressSource` agree on the pattern of a day. -/
lemma agreeOn_addressSource (reach scope : Scope) (timeColumn : String) :
    (DataSource.sample reach).AgreeOn (addressSource scope timeColumn)
      (.qualified addressPattern dayQualifier) := by
  have htests : ∀ test,
      .comparison test ∈ (Pattern.qualified addressPattern dayQualifier).subpatterns →
        test = addressTest ∨ test = partialNameTest := by
    simp [addressPattern, Pattern.subpatterns]
  have haddress : addressTest.field? = some ⟨"network-traffic", "src_ref.value"⟩ := by
    decide +kernel
  have hname : partialNameTest.field? = some ⟨"file", "name"⟩ := by
    decide +kernel
  constructor
  · intro test field htest hfield
    have hcolumns : ∀ field ∈ [Field.mk "network-traffic" "src_ref.value", ⟨"file", "name"⟩],
        Mapping.sample.columns field = addressMapping.columns field := by
      decide +kernel
    refine hcolumns field ?_
    rcases htests test htest with rfl | rfl
    · simp [Option.some.inj (hfield.symm.trans haddress)]
    · simp [Option.some.inj (hfield.symm.trans hname)]
  · have hwords : ∀ key ∈ [Connective.and.key, Comparator.equal.key, Comparator.like.key],
        Mapping.sample.word? key = addressMapping.word? key := by
      decide +kernel
    simpa [addressPattern, Pattern.subpatterns, Pattern.operatorKey?, addressTest, partialNameTest,
      Comparison.of, Comparison.negate, DataSource.sample, addressSource] using hwords
  · intro test field htest hfield hreference column hcolumn shape
    rcases htests test htest with rfl | rfl
    · obtain rfl := Option.some.inj (haddress.symm.trans hfield)
      have hcolumns : Mapping.sample.columns ⟨"network-traffic", "src_ref.value"⟩ =
          ["source_ipaddr"] := by
        decide +kernel
      obtain rfl : column = "source_ipaddr" := by
        simpa [DataSource.sample, hcolumns] using hcolumn
      cases shape <;> rfl
    · obtain rfl := Option.some.inj (hname.symm.trans hfield)
      exact absurd hreference (by decide)

/-- The two data sources give the pattern of a day the same predicate, and without the day also
when they differ in time column and reach. -/
theorem predicate_eq_of_agreeOn_addressSource :
    (DataSource.sample .each).predicate (.qualified addressPattern dayQualifier) =
        (addressSource .each "entry_time").predicate (.qualified addressPattern dayQualifier) ∧
      (DataSource.sample .each).predicate addressPattern =
        (addressSource .last "seen").predicate addressPattern := by
  have hinner : addressPattern ∈ (Pattern.qualified addressPattern dayQualifier).subpatterns := by
    simp [Pattern.subpatterns]
  have hunqualified : addressPattern.IsUnqualified := by
    simp [Pattern.IsUnqualified, addressPattern, Pattern.subpatterns]
  exact ⟨predicate_eq_of_agreeOn (agreeOn_addressSource .each .each "entry_time") (.inl ⟨rfl, rfl⟩),
    predicate_eq_of_agreeOn ((agreeOn_addressSource .each .last "seen").of_mem hinner)
      (.inr hunqualified)⟩

end DataSource

end PatternSql
