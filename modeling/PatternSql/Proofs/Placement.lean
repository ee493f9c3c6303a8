import PatternSql.Proofs.Nodes
import Mathlib.Data.List.Forall2

/-!
# The place of a time range

Where the time range of a qualifier stands in the predicate of the pattern that it
qualifies, when that pattern is a nest: observations and combinations of observations
over units, a unit being a comparison or a combination of comparisons.

A qualified combination of observations is written without parentheses, so the text of a
nest is one row of texts with words between them (`Text.interleave`).  What stands in the
row depends on the reach of the qualifier.  When it reaches each observation the row has
the units of the nest, every one of them with the range behind it; when it reaches the
last one only, the row has the left operands along the right spine, as they are written on
their own, and then the last unit with the range.
-/

namespace PatternSql

/-! ### Rows of texts -/

namespace Text

/-- Texts one after the other, with a word between blanks after each but the last. -/
def interleave : List String → List String → String
  | text :: texts, word :: words => text ++ " " ++ word ++ " " ++ interleave texts words
  | text :: _, [] => text
  | [], _ => ""

/-- Two rows with a word between them are one row. -/
lemma interleave_append {texts words : List String} (h : texts.length = words.length + 1)
    (word : String) (moreTexts moreWords : List String) :
    interleave (texts ++ moreTexts) (words ++ word :: moreWords) =
      interleave texts words ++ " " ++ word ++ " " ++ interleave moreTexts moreWords := by
  induction texts generalizing words with
  | nil => simp at h
  | cons text texts ih =>
    cases words with
    | nil =>
      obtain rfl : texts = [] := by simpa using h
      simp [interleave]
    | cons first words =>
      have hlength : texts.length = words.length + 1 := by simpa using h
      simp only [List.cons_append, interleave, ih hlength, String.append_assoc]

end Text

/-! ### Nests -/

namespace Pattern

/-- Observations and combinations of observations over comparisons and combinations of
comparisons, whatever stands below the latter. -/
def IsNest : Pattern → Prop
  | .comparison _ => True
  | .combined _ _ _ => True
  | .observation inner => inner.IsNest
  | .combinedObservation _ left right => left.IsNest ∧ right.IsNest
  | .qualified _ _ => False

/-- The units of a nest, from left to right. -/
def units : Pattern → List Pattern
  | .observation inner => inner.units
  | .combinedObservation _ left right => left.units ++ right.units
  | unit => [unit]

/-- The connectives between the units of a nest, from left to right. -/
def connectives : Pattern → List ObservationConnective
  | .observation inner => inner.connectives
  | .combinedObservation connective left right =>
    left.connectives ++ connective :: right.connectives
  | _ => []

/-- The left operands along the right spine of a nest, from the outermost one inwards. -/
def leftOperands : Pattern → List Pattern
  | .observation inner => inner.leftOperands
  | .combinedObservation _ left right => left :: right.leftOperands
  | _ => []

/-- The connectives along the right spine of a nest, from the outermost one inwards. -/
def spineConnectives : Pattern → List ObservationConnective
  | .observation inner => inner.spineConnectives
  | .combinedObservation connective _ right => connective :: right.spineConnectives
  | _ => []

/-- The unit at the end of the right spine of a nest. -/
def lastUnit : Pattern → Pattern
  | .observation inner => inner.lastUnit
  | .combinedObservation _ _ right => right.lastUnit
  | unit => unit

/-- A pattern without qualifiers is a nest. -/
lemma IsUnqualified.isNest {pattern : Pattern} (h : pattern.IsUnqualified) : pattern.IsNest := by
  induction pattern with
  | comparison test => trivial
  | combined connective left right _ _ => trivial
  | observation inner ih => exact ih (h.of_mem (by simp [subpatterns]))
  | combinedObservation connective left right ihLeft ihRight =>
    exact ⟨ihLeft (h.of_mem (by simp [subpatterns])), ihRight (h.of_mem (by simp [subpatterns]))⟩
  | qualified inner own _ => exact absurd (mem_subpatterns_self _) (h inner own)

/-- There is one unit more than there are connectives between them. -/
lemma length_units (pattern : Pattern) :
    pattern.units.length = pattern.connectives.length + 1 := by
  induction pattern with
  | comparison test => rfl
  | combined connective left right _ _ => rfl
  | observation inner ih => exact ih
  | combinedObservation connective left right ihLeft ihRight =>
    simp only [units, connectives, List.length_append, List.length_cons, ihLeft, ihRight]
    omega
  | qualified inner qualifier _ => rfl

end Pattern

/-! ### Predicates of nests -/

namespace DataSource

variable {source : DataSource} {qualifier : Qualifier} {range : TimeRange}

/-- The text that puts a clause within a time range. -/
def rangeText (source : DataSource) (range : TimeRange) : String :=
  " AND (" ++ source.timeColumn ++ " >= " ++ Text.ofInt range.start ++ " AND " ++
    source.timeColumn ++ " <= " ++ Text.ofInt range.stop ++ ")"

/-- A text that each pattern of a list has for a predicate. -/
def Predicates (source : DataSource) (patterns : List Pattern) (texts : List String) : Prop :=
  List.Forall₂ (fun pattern text => source.predicate pattern = .ok text) patterns texts

/-- The words of a data source for connectives between observations. -/
def Words (source : DataSource) (connectives : List ObservationConnective)
    (words : List String) : Prop :=
  List.Forall₂ (fun connective word => source.mapping.word? connective.key = some word)
    connectives words

/-- A clause within a time range is written with the range behind it. -/
lemma text_join_within (clause : Clause) (range : TimeRange) :
    (Clause.join "AND" clause (.within source.timeColumn range)).text =
      clause.text ++ source.rangeText range := by
  have hword : " AND (" = " " ++ "AND" ++ " " ++ "(" := by decide
  delta rangeText
  simp only [Clause.text, hword, String.append_assoc]

/-- A pattern with a clause has the text of the clause for a predicate. -/
lemma predicate_of_clause {pattern : Pattern} {clause : Clause}
    (h : source.clause pattern none = .ok (some clause)) :
    source.predicate pattern = .ok clause.text :=
  predicate_eq_ok_iff.2 ⟨some clause, h, rfl⟩

/-- A restricted clause has the time range behind it. -/
lemma text_of_restrict {inner clause : Clause} (hrange : qualifier.range = .ok range)
    (h : source.restrict (some inner) (some qualifier) = .ok (some clause)) :
    clause.text = inner.text ++ source.rangeText range := by
  obtain ⟨range', hrange', hclause⟩ := restrict_some_eq_ok_iff.1 h
  obtain rfl : range = range' := Except.ok.inj (hrange.symm.trans hrange')
  rw [Option.map_some, Option.some.injEq] at hclause
  rw [hclause, text_join_within]

/-- A qualified comparison is written as the comparison with the time range behind it. -/
lemma text_of_clause_comparison {test : Comparison} {clause : Clause}
    (hrange : qualifier.range = .ok range)
    (h : source.clause (.comparison test) (some qualifier) = .ok (some clause)) :
    ∃ text, source.predicate (.comparison test) = .ok text ∧
      clause.text = text ++ source.rangeText range := by
  obtain ⟨inner, hinner, hrestrict⟩ := clause_comparison_eq_ok_iff.1 h
  cases inner with
  | none => simpa using (eq_none_iff_of_restrict hrestrict).2 rfl
  | some inner =>
    have hown : source.clause (.comparison test) none = .ok (some inner) :=
      clause_comparison_eq_ok_iff.2 ⟨some inner, hinner, rfl⟩
    exact ⟨inner.text, predicate_of_clause hown, text_of_restrict hrange hrestrict⟩

/-- A qualified combination of comparisons is written as the combination with the time range
behind it. -/
lemma text_of_clause_combined {connective : Connective} {left right : Pattern} {clause : Clause}
    (hrange : qualifier.range = .ok range)
    (h : source.clause (.combined connective left right) (some qualifier) = .ok (some clause)) :
    ∃ text, source.predicate (.combined connective left right) = .ok text ∧
      clause.text = text ++ source.rangeText range := by
  obtain ⟨word, first, second, hword, hfirst, hsecond, hcases⟩ := clause_combined_eq_ok_iff.1 h
  rcases hcases with ⟨_, hnone⟩ | ⟨inner, hinner, hrestrict⟩
  · simp at hnone
  · have hown : source.clause (.combined connective left right) none = .ok (some inner) :=
      clause_combined_eq_ok_iff.2
        ⟨word, first, second, hword, hfirst, hsecond, .inr ⟨inner, hinner, rfl⟩⟩
    exact ⟨inner.text, predicate_of_clause hown, text_of_restrict hrange hrestrict⟩

/-- When a qualifier reaches each observation, a qualified nest is written as its units, every
one of them with the time range behind it. -/
theorem text_of_clause_each (hscope : source.scope = .each) (hrange : qualifier.range = .ok range)
    {pattern : Pattern} (hnest : pattern.IsNest) {clause : Clause}
    (h : source.clause pattern (some qualifier) = .ok (some clause)) :
    ∃ texts words, source.Predicates pattern.units texts ∧
      source.Words pattern.connectives words ∧
      clause.text = Text.interleave (texts.map (· ++ source.rangeText range)) words := by
  induction pattern generalizing clause with
  | comparison test =>
    obtain ⟨text, htext, hclause⟩ := text_of_clause_comparison hrange h
    exact ⟨[text], [], .cons htext .nil, .nil, hclause⟩
  | combined connective left right _ _ =>
    obtain ⟨text, htext, hclause⟩ := text_of_clause_combined hrange h
    exact ⟨[text], [], .cons htext .nil, .nil, hclause⟩
  | observation inner ih => exact ih hnest h
  | combinedObservation connective left right ihLeft ihRight =>
    obtain ⟨word, first, second, hword, hfirst, hsecond, hresult⟩ :=
      clause_combinedObservation_eq_ok_iff.1 h
    obtain ⟨leftClause, rightClause, rfl, rfl, rfl⟩ := combine_eq_some_iff.1 hresult.symm
    have hqualifier : source.leftQualifier (some qualifier) = some qualifier := by
      rw [leftQualifier, hscope]
    rw [hqualifier] at hfirst
    obtain ⟨texts, words, htexts, hwords, hleft⟩ := ihLeft hnest.1 hfirst
    obtain ⟨moreTexts, moreWords, hmoreTexts, hmoreWords, hright⟩ := ihRight hnest.2 hsecond
    refine ⟨texts ++ moreTexts, words ++ word :: moreWords, ?_, ?_, ?_⟩
    · exact List.rel_append htexts hmoreTexts
    · exact List.rel_append hwords (.cons hword hmoreWords)
    · have hlength : (texts.map (· ++ source.rangeText range)).length = words.length + 1 := by
        rw [List.length_map, ← htexts.length_eq, ← hwords.length_eq, Pattern.length_units]
      rw [List.map_append, Text.interleave_append hlength, ← hleft, ← hright]
      rfl
  | qualified inner own _ => exact hnest.elim

/-- When a qualifier reaches the last observation only, a qualified nest is written as the left
operands along its right spine, and its last unit with the time range behind it. -/
theorem text_of_clause_last (hscope : source.scope = .last) (hrange : qualifier.range = .ok range)
    {pattern : Pattern} (hnest : pattern.IsNest) {clause : Clause}
    (h : source.clause pattern (some qualifier) = .ok (some clause)) :
    ∃ texts text words, source.Predicates pattern.leftOperands texts ∧
      source.predicate pattern.lastUnit = .ok text ∧
      source.Words pattern.spineConnectives words ∧
      clause.text = Text.interleave (texts ++ [text ++ source.rangeText range]) words := by
  induction pattern generalizing clause with
  | comparison test =>
    obtain ⟨text, htext, hclause⟩ := text_of_clause_comparison hrange h
    exact ⟨[], text, [], .nil, htext, .nil, hclause⟩
  | combined connective left right _ _ =>
    obtain ⟨text, htext, hclause⟩ := text_of_clause_combined hrange h
    exact ⟨[], text, [], .nil, htext, .nil, hclause⟩
  | observation inner ih => exact ih hnest h
  | combinedObservation connective left right _ ihRight =>
    obtain ⟨word, first, second, hword, hfirst, hsecond, hresult⟩ :=
      clause_combinedObservation_eq_ok_iff.1 h
    obtain ⟨leftClause, rightClause, rfl, rfl, rfl⟩ := combine_eq_some_iff.1 hresult.symm
    have hqualifier : source.leftQualifier (some qualifier) = none := by
      rw [leftQualifier, hscope]
    rw [hqualifier] at hfirst
    obtain ⟨texts, text, words, htexts, htext, hwords, hright⟩ := ihRight hnest.2 hsecond
    refine ⟨leftClause.text :: texts, text, word :: words, ?_, htext, ?_, ?_⟩
    · exact .cons (predicate_of_clause hfirst) htexts
    · exact .cons hword hwords
    · rw [List.cons_append, Text.interleave, ← hright]
      rfl
  | qualified inner own _ => exact hnest.elim

/-- The predicate of a qualified nest, where it is not empty, is a row of texts and the words
between them.  When the qualifier reaches each observation, these are the predicates of the
units, each with the time range behind it; when it reaches the last one only, they are the
predicates of the left operands along the right spine, and that of the last unit with the time
range behind it. -/
theorem predicate_qualified_eq_interleave {pattern : Pattern} {text : String}
    (hnest : pattern.IsNest) (hrange : qualifier.range = .ok range)
    (htext : source.predicate (.qualified pattern qualifier) = .ok text) (hne : text ≠ "") :
    (source.scope = .each → ∃ units words, source.Predicates pattern.units units ∧
      source.Words pattern.connectives words ∧
      text = Text.interleave (units.map (· ++ source.rangeText range)) words) ∧
    (source.scope = .last → ∃ operands last words,
      source.Predicates pattern.leftOperands operands ∧
      source.predicate pattern.lastUnit = .ok last ∧
      source.Words pattern.spineConnectives words ∧
      text = Text.interleave (operands ++ [last ++ source.rangeText range]) words) := by
  obtain ⟨result, hresult, rfl⟩ := predicate_eq_ok_iff.1 htext
  cases result with
  | none => exact absurd rfl hne
  | some clause =>
    exact ⟨fun hscope => text_of_clause_each hscope hrange hnest hresult,
      fun hscope => text_of_clause_last hscope hrange hnest hresult⟩

/-- Two observations of files, the second of one of two names, or one of a port. -/
def nestedObservations : Pattern :=
  .combinedObservation .or
    (.observation (.combinedObservation .and (fileNamed "a")
      (.observation (.combined .or (nameIs "b") (nameIs "c")))))
    (.observation (.comparison portTest))

/-- The day stands behind each of the three units in one scope, and behind the last one in the
other. -/
theorem predicate_qualified_eq_interleave_sample :
    (∃ units words,
      (DataSource.sample .each).Predicates nestedObservations.units units ∧
      (DataSource.sample .each).Words nestedObservations.connectives words ∧
      (DataSource.sample .each).predicate (.qualified nestedObservations dayQualifier) = .ok
        (Text.interleave
          (units.map (· ++ (DataSource.sample .each).rangeText dayRange)) words)) ∧
    ∃ operands last words,
      (DataSource.sample .last).Predicates nestedObservations.leftOperands operands ∧
      (DataSource.sample .last).predicate nestedObservations.lastUnit = .ok last ∧
      (DataSource.sample .last).Words nestedObservations.spineConnectives words ∧
      (DataSource.sample .last).predicate (.qualified nestedObservations dayQualifier) = .ok
        (Text.interleave
          (operands ++ [last ++ (DataSource.sample .last).rangeText dayRange]) words) := by
  have hnest : nestedObservations.IsNest := ⟨⟨trivial, trivial⟩, trivial⟩
  have heach : (DataSource.sample .each).predicate (.qualified nestedObservations dayQualifier) =
      .ok ("filename = 'a' AND (entry_time >= 1577836800000 AND entry_time <= 1577923200000) " ++
        "AND filename = 'b' OR filename = 'c' " ++
        "AND (entry_time >= 1577836800000 AND entry_time <= 1577923200000) OR " ++
        "source_port > 1024 " ++
        "AND (entry_time >= 1577836800000 AND entry_time <= 1577923200000)") := by
    decide +kernel
  have hlast : (DataSource.sample .last).predicate (.qualified nestedObservations dayQualifier) =
      .ok ("(filename = 'a' AND filename = 'b' OR filename = 'c') OR " ++
        "source_port > 1024 " ++
        "AND (entry_time >= 1577836800000 AND entry_time <= 1577923200000)") := by
    decide +kernel
  obtain ⟨units, words, hunits, hwords, htext⟩ :=
    (predicate_qualified_eq_interleave hnest range_dayQualifier heach (by decide)).1 rfl
  obtain ⟨operands, last, words', hoperands, hlastUnit, hwords', htext'⟩ :=
    (predicate_qualified_eq_interleave hnest range_dayQualifier hlast (by decide)).2 rfl
  exact ⟨⟨units, words, hunits, hwords, heach.trans (congrArg _ htext)⟩,
    operands, last, words', hoperands, hlastUnit, hwords', hlast.trans (congrArg _ htext')⟩

end DataSource

end PatternSql
