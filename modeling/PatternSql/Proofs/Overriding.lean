import PatternSql.Proofs.Nodes

/-!
# Overridden qualifiers

A qualifier is handed down to the units of the pattern below it, and on the way an inner
qualifier takes its place.  `Pattern.isOpen` tells whether any of it arrives: whether a unit
can be reached from the top of a pattern without passing an inner qualifier, under the given
reach over combinations of observations.

A pattern that is not open is compiled alike under any two qualifiers, be they well formed or
not (`clause_eq_of_not_isOpen`).  What is compiled alike under every qualifier may replace each
other anywhere in a larger pattern (`clause_fill_congr`), the place being given by a pattern
with a gap, `Pattern.Context`.
-/

namespace PatternSql

namespace Pattern

/-- Whether a qualifier from above reaches a unit of a pattern. -/
def isOpen (scope : Scope) : Pattern → Bool
  | .comparison _ => true
  | .combined _ _ _ => true
  | .observation inner => inner.isOpen scope
  | .combinedObservation _ left right =>
    match scope with
    | .last => right.isOpen scope
    | .each => left.isOpen scope || right.isOpen scope
  | .qualified _ _ => false

/-- The right one of two observations is in reach, whatever the reach. -/
lemma isOpen_of_right {scope : Scope} {connective : ObservationConnective} {left right : Pattern}
    (h : right.isOpen scope = true) :
    (combinedObservation connective left right).isOpen scope = true := by
  cases scope <;> simp [isOpen, h]

/-- A pattern with a gap in one place. -/
inductive Context where
  /-- Nothing but the gap. -/
  | gap
  | combinedLeft (connective : Connective) (left : Context) (right : Pattern)
  | combinedRight (connective : Connective) (left : Pattern) (right : Context)
  | observation (inner : Context)
  | combinedObservationLeft (connective : ObservationConnective) (left : Context)
    (right : Pattern)
  | combinedObservationRight (connective : ObservationConnective) (left : Pattern)
    (right : Context)
  | qualified (inner : Context) (qualifier : Qualifier)

/-- The pattern with a given one in the gap. -/
def Context.fill : Context → Pattern → Pattern
  | .gap, pattern => pattern
  | .combinedLeft connective left right, pattern =>
    .combined connective (left.fill pattern) right
  | .combinedRight connective left right, pattern =>
    .combined connective left (right.fill pattern)
  | .observation inner, pattern => .observation (inner.fill pattern)
  | .combinedObservationLeft connective left right, pattern =>
    .combinedObservation connective (left.fill pattern) right
  | .combinedObservationRight connective left right, pattern =>
    .combinedObservation connective left (right.fill pattern)
  | .qualified inner qualifier, pattern => .qualified (inner.fill pattern) qualifier

end Pattern

namespace DataSource

variable {source : DataSource}

/-- What is compiled alike under every qualifier is compiled alike in every context. -/
lemma clause_fill_congr {first second : Pattern}
    (h : ∀ given, source.clause first given = source.clause second given)
    (context : Pattern.Context) (given : Option Qualifier) :
    source.clause (context.fill first) given = source.clause (context.fill second) given := by
  induction context generalizing given with
  | gap => exact h given
  | combinedLeft connective left right ih => simp only [Pattern.Context.fill, clause, ih]
  | combinedRight connective left right ih => simp only [Pattern.Context.fill, clause, ih]
  | observation inner ih => exact ih given
  | combinedObservationLeft connective left right ih =>
    simp only [Pattern.Context.fill, clause, ih]
  | combinedObservationRight connective left right ih =>
    simp only [Pattern.Context.fill, clause, ih]
  | qualified inner qualifier ih => exact ih (some qualifier)

/-- A pattern that is not open is compiled alike under any two qualifiers. -/
lemma clause_eq_of_not_isOpen {pattern : Pattern} (hclosed : ¬pattern.isOpen source.scope = true)
    (first second : Qualifier) :
    source.clause pattern (some first) = source.clause pattern (some second) := by
  induction pattern with
  | comparison test => exact absurd rfl hclosed
  | combined connective left right _ _ => exact absurd rfl hclosed
  | observation inner ih => exact ih hclosed
  | combinedObservation connective left right ihLeft ihRight =>
    -- the left one is closed as well, or is given no qualifier
    have hleft : source.clause left (source.leftQualifier (some first)) =
        source.clause left (source.leftQualifier (some second)) := by
      unfold leftQualifier
      cases hscope : source.scope with
      | last => rfl
      | each =>
        rw [hscope] at hclosed ihLeft
        apply ihLeft
        intro hopen
        exact hclosed (by simp [Pattern.isOpen, hopen])
    have hright : source.clause right (some first) = source.clause right (some second) := by
      apply ihRight
      intro hopen
      exact hclosed (Pattern.isOpen_of_right hopen)
    simp only [clause, hleft, hright, Option.isNone_some]
  | qualified inner own _ => rfl

/-- The qualifier over a pattern that is not open has no influence on the predicate or the fault,
neither on its own nor within a larger pattern. -/
theorem predicate_fill_qualified_eq {pattern : Pattern}
    (hclosed : ¬pattern.isOpen source.scope = true) (first second : Qualifier)
    (context : Pattern.Context) :
    source.predicate (.qualified pattern first) = source.predicate (.qualified pattern second) ∧
      source.predicate (context.fill (.qualified pattern first)) =
        source.predicate (context.fill (.qualified pattern second)) := by
  have hclause : ∀ given, source.clause (.qualified pattern first) given =
      source.clause (.qualified pattern second) given :=
    fun _ => clause_eq_of_not_isOpen hclosed first second
  constructor
  · rw [predicate, predicate, hclause]
  · rw [predicate, predicate, clause_fill_congr hclause]

/-- Two observations, of which the last has a qualifier of its own. -/
def lastQualified : Pattern :=
  .combinedObservation .or (fileNamed "a")
    (.qualified (fileNamed "b")
      ⟨"START t'2021-01-01T00:00:00Z' STOP t'2021-01-02T00:00:00Z'"⟩)

/-- A combination of observations within a time range, with a gap on its left. -/
def rangeContext : Pattern.Context :=
  .qualified (.combinedObservationLeft .and .gap (fileNamed "c")) dayQualifier

/-- Two qualifiers without bounds make no difference over the two observations, as the last of them
has its own. -/
theorem predicate_fill_qualified_eq_lastQualified :
    ¬lastQualified.isOpen (DataSource.sample .last).scope = true ∧
      (DataSource.sample .last).predicate (.qualified lastQualified ⟨"START STOP"⟩) =
        .ok ("filename = 'a' OR filename = 'b' AND " ++
          "(entry_time >= 1609459200000 AND entry_time <= 1609545600000)") ∧
      (DataSource.sample .last).predicate
          (rangeContext.fill (.qualified lastQualified ⟨"START STOP"⟩)) =
        (DataSource.sample .last).predicate
          (rangeContext.fill (.qualified lastQualified ⟨"WITHIN 5 SECONDS"⟩)) := by
  have hclosed : ¬lastQualified.isOpen (DataSource.sample .last).scope = true := by decide
  obtain ⟨halone, _⟩ := predicate_fill_qualified_eq hclosed ⟨"START STOP"⟩ dayQualifier .gap
  refine ⟨hclosed, ?_, (predicate_fill_qualified_eq hclosed _ _ rangeContext).2⟩
  rw [halone]
  decide +kernel

end DataSource

end PatternSql
