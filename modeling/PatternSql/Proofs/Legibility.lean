import PatternSql.Proofs.Lexing
import PatternSql.Proofs.Meaning
import PatternSql.Proofs.Placement

/-!
# Patterns that their predicates determine

When two patterns with the same predicate mean the same.

A predicate does not show the tree of its pattern.  Disjunctions are written without
parentheses, and so are conjunctions of observations that a qualifier reaches.  What it
does show is a row of marks for the whole and for each pair of parentheses: operands, time
ranges and connectives (`Clause.marks`).  Parentheses stand around a conjunction, so one
`AND` of their row is the one that they were written for.  `Mark.groupValue` takes it to be
the last `AND` without a time range behind it, and reads what stands on its two sides with
precedence.

This reading depends on the text only, and for a `Legible` pattern it gives the meaning of
the pattern (`conveys_clause`).  So legible patterns with the same predicate have the same
meaning.  Patterns without qualifiers are legible.
-/

namespace PatternSql

/-! ### Rows of marks -/

/-- What stands directly between two parentheses. -/
inductive Mark where
  | and
  | or
  /-- A test or a group, and whether it holds. -/
  | operand (value : Bool)
  /-- A time range, and whether it holds. -/
  | range (value : Bool)
deriving DecidableEq

namespace Mark

variable {marks rest : List Mark}

/-- Whether a mark lets the disjunct that it stands in hold. -/
def holds : Mark → Bool
  | .and => true
  | .or => true
  | .operand value => value
  | .range value => value

/-- The value of a row with precedence, when the current disjunct has a given value so far. -/
def valueFrom (current : Bool) : List Mark → Bool
  | [] => current
  | mark :: rest =>
    if mark = .or then current || valueFrom true rest
    else valueFrom (current && mark.holds) rest

/-- The value of a row, where conjunction binds tighter than disjunction. -/
def value (marks : List Mark) : Bool :=
  valueFrom true marks

/-- An `OR` ends the current disjunct, and the rest counts by itself. -/
lemma valueFrom_append_or (current : Bool) (marks rest : List Mark) :
    valueFrom current (marks ++ .or :: rest) = (valueFrom current marks || value rest) := by
  induction marks generalizing current with
  | nil => rfl
  | cons mark marks ih =>
    rw [List.cons_append, valueFrom, valueFrom]
    split
    · rw [ih, Bool.or_assoc]
    · rw [ih]

/-- The value of two rows with an `OR` between them. -/
lemma value_append_or (marks rest : List Mark) :
    value (marks ++ .or :: rest) = (value marks || value rest) :=
  valueFrom_append_or true marks rest

/-- Without an `OR`, a row is one disjunct, which holds when all of its marks do. -/
lemma valueFrom_eq_all (h : .or ∉ marks) (current : Bool) :
    valueFrom current marks = (current && marks.all holds) := by
  induction marks generalizing current with
  | nil => simp [valueFrom]
  | cons mark marks ih =>
    rw [List.mem_cons, not_or] at h
    rw [valueFrom, if_neg (Ne.symm h.1), ih h.2, List.all_cons, Bool.and_assoc]

/-- The value of two rows without an `OR`, with an `AND` between them. -/
lemma value_append_and (hmarks : .or ∉ marks) (hrest : .or ∉ rest) :
    value (marks ++ .and :: rest) = (value marks && value rest) := by
  have hrow : .or ∉ marks ++ .and :: rest := by simp [hmarks, hrest]
  simp [value, valueFrom_eq_all hmarks, valueFrom_eq_all hrest, valueFrom_eq_all hrow, holds]

/-- Whether a row begins with a time range. -/
def beginsWithRange : List Mark → Bool
  | .range _ :: _ => true
  | _ => false

/-- A row that begins with a time range does so whatever follows it. -/
lemma beginsWithRange_append (h : beginsWithRange marks = true) (rest : List Mark) :
    beginsWithRange (marks ++ rest) = true := by
  cases marks with
  | nil => simp [beginsWithRange] at h
  | cons mark marks => cases mark <;> simp_all [beginsWithRange]

/-- A row that begins with no time range does not when a connective follows it. -/
lemma beginsWithRange_append_connective {connective : Mark}
    (hconnective : connective = .and ∨ connective = .or) (h : beginsWithRange marks = false) :
    beginsWithRange (marks ++ connective :: rest) = false := by
  cases marks with
  | nil => rcases hconnective with rfl | rfl <;> rfl
  | cons mark marks => cases mark <;> simp_all [beginsWithRange]

/-- The parts of a row before and after its last `AND` without a time range behind it. -/
def split? : List Mark → Option (List Mark × List Mark)
  | [] => none
  | mark :: rest =>
    match split? rest with
    | some (before, after) => some (mark :: before, after)
    | none => if mark = .and ∧ beginsWithRange rest = false then some ([], rest) else none

/-- A row is split at an `AND`. -/
lemma eq_append_of_split? {before after : List Mark} (h : split? marks = some (before, after)) :
    marks = before ++ .and :: after := by
  induction marks generalizing before with
  | nil => simp [split?] at h
  | cons mark marks ih =>
    rw [split?] at h
    cases hsplit : split? marks with
    | none =>
      rw [hsplit, Option.ite_none_right_eq_some] at h
      obtain ⟨⟨rfl, _⟩, heq⟩ := h
      obtain ⟨rfl, rfl⟩ := Prod.mk.inj (Option.some.inj heq)
      rfl
    | some parts =>
      obtain ⟨before', after'⟩ := parts
      rw [hsplit] at h
      obtain ⟨rfl, rfl⟩ := Prod.mk.inj (Option.some.inj h)
      rw [ih hsplit, List.cons_append]

/-- A row is split at an `AND` with nothing behind it that it could be split at. -/
lemma split?_append (marks : List Mark) (hrest : split? rest = none)
    (hbegins : beginsWithRange rest = false) :
    split? (marks ++ .and :: rest) = some (marks, rest) := by
  induction marks with
  | nil => simp [split?, hrest, hbegins]
  | cons mark marks ih => rw [List.cons_append, split?, ih]

/-- Rows that are not split are not split when one follows the other. -/
lemma split?_append_eq_none (hmarks : split? marks = none) (hrest : split? rest = none) :
    split? (marks ++ rest) = none := by
  induction marks with
  | nil => exact hrest
  | cons mark marks ih =>
    rw [split?] at hmarks
    cases hsplit : split? marks with
    | some parts => simp [hsplit] at hmarks
    | none =>
      rw [hsplit, ite_eq_right_iff] at hmarks
      rw [List.cons_append, split?, ih hsplit, ite_eq_right_iff]
      rintro ⟨rfl, hbegins⟩
      -- the first mark is an `AND`, and the time range behind it stays there
      have hrange : beginsWithRange marks = true := by
        cases hmark : beginsWithRange marks with
        | false => simp [hmark] at hmarks
        | true => rfl
      simp [beginsWithRange_append hrange] at hbegins

/-- The value of a row between parentheses: what its two parts have in common when it is split, and
its own value when it is not. -/
def groupValue (marks : List Mark) : Bool :=
  match split? marks with
  | none => value marks
  | some (before, after) => value before && value after

/-- A row without an `OR` has its own value between parentheses. -/
lemma groupValue_of_or_notMem (h : .or ∉ marks) : groupValue marks = value marks := by
  unfold groupValue
  cases hsplit : split? marks with
  | none => rfl
  | some parts =>
    obtain ⟨before, after⟩ := parts
    obtain rfl := eq_append_of_split? hsplit
    simp only [List.mem_append, List.mem_cons, not_or] at h
    exact (value_append_and h.1 h.2.2).symm

end Mark

/-! ### Clauses as rows -/

/-- The mark of an atom. -/
def Atom.mark (truth : Atom → Bool) : Atom → Mark
  | .test column word operand => .operand (truth (.test column word operand))
  | .within column range => .range (truth (.within column range))

/-- The row of a clause. -/
def Clause.marks (truth : Atom → Bool) : Clause → List Mark
  | .test column word operand => [(Atom.test column word operand).mark truth]
  | .within column range => [(Atom.within column range).mark truth]
  | .join word left right =>
    left.marks truth ++ (if word = "AND" then .and else .or) :: right.marks truth
  | .group inner => [.operand (Mark.groupValue (inner.marks truth))]
  | .negation inner => [.operand (!Mark.groupValue (inner.marks truth))]

/-- The row that tokens without negations stand for, after the marks that were read before them;
the rows of the outer parentheses stand innermost first. -/
def Mark.read? (truth : Atom → Bool) :
    List Token → List Mark → List (List Mark) → Option (List Mark)
  | [], marks, [] => some marks
  | .atom part :: rest, marks, outer => read? truth rest (marks ++ [part.mark truth]) outer
  | .and :: rest, marks, outer => read? truth rest (marks ++ [.and]) outer
  | .or :: rest, marks, outer => read? truth rest (marks ++ [.or]) outer
  | .opening :: rest, marks, outer => read? truth rest [] (marks :: outer)
  | .closing :: rest, marks, enclosing :: outer =>
    read? truth rest (enclosing ++ [.operand (groupValue marks)]) outer
  | _, _, _ => none

namespace Clause

variable {timeColumn : String} {clause other : Clause}

/-- The tokens of a clause are read as its row. -/
lemma read?_tokens (h : clause.IsDelimited timeColumn) (truth : Atom → Bool)
    (rest : List Token) (marks : List Mark) (outer : List (List Mark)) :
    Mark.read? truth (clause.tokens ++ rest) marks outer =
      Mark.read? truth rest (marks ++ clause.marks truth) outer := by
  induction clause generalizing rest marks outer with
  | test column word operand => rfl
  | within column range => rfl
  | join word left right ihLeft ihRight =>
    obtain ⟨_, hleft, hright⟩ := h
    rw [tokens, List.append_assoc, ihLeft hleft, List.cons_append, Clause.marks]
    split <;> simp [Mark.read?, ihRight hright]
  | group inner ih =>
    rw [tokens, List.cons_append, List.append_assoc, Mark.read?, ih h]
    rfl
  | negation inner _ => exact h.elim

/-- The text of a delimited clause determines its row. -/
theorem marks_eq_of_text_eq (h : clause.IsDelimited timeColumn)
    (h' : other.IsDelimited timeColumn) (heq : clause.text = other.text) (truth : Atom → Bool) :
    clause.marks truth = other.marks truth := by
  have hread : some (clause.marks truth) = some (other.marks truth) := by
    calc some (clause.marks truth)
        = Mark.read? truth (clause.tokens ++ []) [] [] := (read?_tokens h truth [] [] []).symm
      _ = Mark.read? truth (other.tokens ++ []) [] [] := by rw [tokens_eq_of_text_eq h h' heq]
      _ = some (other.marks truth) := read?_tokens h' truth [] [] []
  exact Option.some.inj hread

end Clause

/-! ### Legible patterns -/

namespace DataSource

variable {source : DataSource}

/-- A comparison that becomes one test of equality, of a column that is a name and a value without
quotes and greater-than signs. -/
def IsAtomic (source : DataSource) (test : Comparison) : Prop :=
  ∃ column value, Text.IsName column ∧ '\x27' ∉ value.toList ∧ '>' ∉ value.toList ∧
    source.comparisonClause test = .ok (some (.test column "=" (Operand.quoted value)))

/-- A pattern of such comparisons. -/
def HasAtomicLeaves (source : DataSource) (pattern : Pattern) : Prop :=
  ∀ test, .comparison test ∈ pattern.subpatterns → source.IsAtomic test

/-- The leaves of a part are leaves of the pattern. -/
lemma HasAtomicLeaves.of_mem {pattern part : Pattern} (h : source.HasAtomicLeaves pattern)
    (hpart : part ∈ pattern.subpatterns) : source.HasAtomicLeaves part :=
  fun test hmem => h test (Pattern.mem_subpatterns_trans hmem hpart)

/-- Whether a pattern, given a qualifier from above, becomes a row with an `AND` between patterns in
it: a conjunction of observations is written without parentheses when a qualifier reaches it,
and disjunctions never have any. -/
def exposesAnd (source : DataSource) : Pattern → Option Qualifier → Bool
  | .comparison _, _ => false
  | .combined connective left right, _ =>
    connective = .or && (source.exposesAnd left none || source.exposesAnd right none)
  | .observation inner, qualifier => source.exposesAnd inner qualifier
  | .combinedObservation connective left right, qualifier =>
    if connective = .and then qualifier.isSome
    else source.exposesAnd left (source.leftQualifier qualifier) ||
      source.exposesAnd right qualifier
  | .qualified inner own, _ => source.exposesAnd inner (some own)

/-- Whether neither of two patterns becomes a bare disjunction. -/
def AreConjuncts (source : DataSource) (left right : Pattern) : Prop :=
  source.isOrShaped left = false ∧ source.isOrShaped right = false

/-- A pattern, given a qualifier from above, whose conjunctions can be seen in its predicate: no
disjunction of comparisons receives a time range; a conjunction without parentheses has no bare
disjunction for an operand; and one with parentheses has none either, or its `AND` is the last
one between them. -/
def Legible (source : DataSource) : Pattern → Option Qualifier → Prop
  | .comparison _, _ => True
  | .combined connective left right, qualifier =>
    (connective = .or → qualifier = none) ∧
      (connective = .and →
        source.AreConjuncts left right ∨ source.exposesAnd right none = false) ∧
      source.Legible left none ∧ source.Legible right none
  | .observation inner, qualifier => source.Legible inner qualifier
  | .combinedObservation connective left right, qualifier =>
    (connective = .and → source.AreConjuncts left right ∨
      qualifier = none ∧ source.exposesAnd right none = false) ∧
      source.Legible left (source.leftQualifier qualifier) ∧ source.Legible right qualifier
  | .qualified inner own, _ => source.Legible inner (some own)

/-- A pattern without qualifiers is legible, and no `AND` is exposed in it. -/
lemma legible_of_isUnqualified {pattern : Pattern} (h : pattern.IsUnqualified) :
    source.Legible pattern none ∧ source.exposesAnd pattern none = false := by
  induction pattern with
  | comparison test => exact ⟨trivial, rfl⟩
  | combined connective left right ihLeft ihRight =>
    obtain ⟨hleft, hexposedLeft⟩ := ihLeft (h.of_mem (by simp [Pattern.subpatterns]))
    obtain ⟨hright, hexposedRight⟩ := ihRight (h.of_mem (by simp [Pattern.subpatterns]))
    refine ⟨⟨fun _ => rfl, fun _ => .inr hexposedRight, hleft, hright⟩, ?_⟩
    simp [exposesAnd, hexposedLeft, hexposedRight]
  | observation inner ih => exact ih (h.of_mem (by simp [Pattern.subpatterns]))
  | combinedObservation connective left right ihLeft ihRight =>
    obtain ⟨hleft, hexposedLeft⟩ := ihLeft (h.of_mem (by simp [Pattern.subpatterns]))
    obtain ⟨hright, hexposedRight⟩ := ihRight (h.of_mem (by simp [Pattern.subpatterns]))
    have hqualifier : source.leftQualifier none = none := by
      unfold leftQualifier
      cases source.scope <;> rfl
    refine ⟨⟨fun _ => .inr ⟨rfl, hexposedRight⟩, ?_, hright⟩, ?_⟩
    · rwa [hqualifier]
    · simp [exposesAnd, hqualifier, hexposedLeft, hexposedRight]
  | qualified inner own _ => exact absurd (Pattern.mem_subpatterns_self _) (h inner own)

/-! ### Clauses that convey a statement

The invariant of the compilation: the row of the clause has the value of the pattern's
meaning, it has an `OR` only when the pattern is or-shaped, and it can be split only when the
pattern exposes an `AND`.
-/

/-- A clause whose row says a given thing about a record, begins with an operand, and has an `OR`
or an `AND` to split it at only when that is allowed. -/
structure Conveys (timeColumn : String) (clause : Clause) (bare exposed : Prop)
    (meaning : (Atom → Bool) → Prop) : Prop where
  delimited : clause.IsDelimited timeColumn
  or_notMem : ¬bare → ∀ truth, .or ∉ clause.marks truth
  split?_eq_none : ¬exposed → ∀ truth, Mark.split? (clause.marks truth) = none
  beginsWithRange : ∀ truth, Mark.beginsWithRange (clause.marks truth) = false
  value_iff : ∀ truth, Mark.value (clause.marks truth) = true ↔ meaning truth

/-- The row of two clauses joined by `AND` without parentheses. -/
lemma marks_joined_and (left right : Clause) (truth : Atom → Bool) :
    (joined false "AND" left right).marks truth =
      left.marks truth ++ .and :: right.marks truth := rfl

/-- The row of two clauses joined by `OR` without parentheses. -/
lemma marks_joined_or (left right : Clause) (truth : Atom → Bool) :
    (joined false "OR" left right).marks truth =
      left.marks truth ++ .or :: right.marks truth := rfl

section Conveys

variable {timeColumn : String} {left right : Clause}
  {bareLeft exposedLeft bareRight exposedRight bare exposed : Prop}
  {meaningLeft meaningRight : (Atom → Bool) → Prop}

/-- A clause of one operand conveys its value, whatever is allowed. -/
lemma Conveys.of_marks_eq_operand {clause : Clause} {value : (Atom → Bool) → Bool}
    {meaning : (Atom → Bool) → Prop} (hdelimited : clause.IsDelimited timeColumn)
    (hmarks : ∀ truth, clause.marks truth = [.operand (value truth)])
    (hvalue : ∀ truth, value truth = true ↔ meaning truth) :
    Conveys timeColumn clause bare exposed meaning where
  delimited := hdelimited
  or_notMem _ truth := by simp [hmarks]
  split?_eq_none _ truth := by simp [hmarks, Mark.split?]
  beginsWithRange truth := by simp [hmarks, Mark.beginsWithRange]
  value_iff truth := by
    have hrow : Mark.value [.operand (value truth)] = value truth := by
      simp [Mark.value, Mark.valueFrom, Mark.holds]
    rw [hmarks, hrow, hvalue]

/-- Two clauses joined by `OR` convey their disjunction. -/
lemma Conveys.or (hleft : Conveys timeColumn left bareLeft exposedLeft meaningLeft)
    (hright : Conveys timeColumn right bareRight exposedRight meaningRight) (hbare : bare)
    (hexposed : exposedLeft ∨ exposedRight → exposed) :
    Conveys timeColumn (joined false "OR" left right) bare exposed
      fun truth => meaningLeft truth ∨ meaningRight truth where
  delimited := ⟨.inr rfl, hleft.delimited, hright.delimited⟩
  or_notMem hnot := absurd hbare hnot
  split?_eq_none hnot truth := by
    have hnotLeft := hleft.split?_eq_none (fun h => hnot (hexposed (.inl h))) truth
    have hnotRight := hright.split?_eq_none (fun h => hnot (hexposed (.inr h))) truth
    have hbehind : Mark.split? (.or :: right.marks truth) = none := by
      rw [Mark.split?, hnotRight]
      rfl
    exact Mark.split?_append_eq_none hnotLeft hbehind
  beginsWithRange truth :=
    Mark.beginsWithRange_append_connective (.inr rfl) (hleft.beginsWithRange truth)
  value_iff truth := by
    rw [marks_joined_or, Mark.value_append_or, Bool.or_eq_true, hleft.value_iff, hright.value_iff]

/-- Two clauses without an `OR` convey their conjunction when joined by `AND`. -/
lemma Conveys.and (hleft : Conveys timeColumn left bareLeft exposedLeft meaningLeft)
    (hright : Conveys timeColumn right bareRight exposedRight meaningRight)
    (hbareLeft : ¬bareLeft) (hbareRight : ¬bareRight) (hexposed : exposed) :
    Conveys timeColumn (joined false "AND" left right) bare exposed
      fun truth => meaningLeft truth ∧ meaningRight truth where
  delimited := ⟨.inl rfl, hleft.delimited, hright.delimited⟩
  or_notMem _ truth := by
    simp [marks_joined_and, hleft.or_notMem hbareLeft, hright.or_notMem hbareRight]
  split?_eq_none hnot := absurd hexposed hnot
  beginsWithRange truth :=
    Mark.beginsWithRange_append_connective (.inl rfl) (hleft.beginsWithRange truth)
  value_iff truth := by
    rw [marks_joined_and, Mark.value_append_and (hleft.or_notMem hbareLeft truth)
      (hright.or_notMem hbareRight truth), Bool.and_eq_true, hleft.value_iff, hright.value_iff]

/-- Two clauses joined by `AND` between parentheses convey their conjunction, when they have no
`OR` or the right one has no `AND` to split it at. -/
lemma Conveys.group (hleft : Conveys timeColumn left bareLeft exposedLeft meaningLeft)
    (hright : Conveys timeColumn right bareRight exposedRight meaningRight)
    (hparts : ¬bareLeft ∧ ¬bareRight ∨ ¬exposedRight) :
    Conveys timeColumn (joined true "AND" left right) bare exposed
      fun truth => meaningLeft truth ∧ meaningRight truth := by
  refine .of_marks_eq_operand ⟨.inl rfl, hleft.delimited, hright.delimited⟩ (fun truth => rfl)
    fun truth => ?_
  have hgroup : Mark.groupValue (left.marks truth ++ .and :: right.marks truth) =
      (Mark.value (left.marks truth) && Mark.value (right.marks truth)) := by
    rcases hparts with ⟨hbareLeft, hbareRight⟩ | hnot
    · -- wherever the row is split, without an `OR` it is one conjunction
      have hnotLeft := hleft.or_notMem hbareLeft truth
      have hnotRight := hright.or_notMem hbareRight truth
      rw [Mark.groupValue_of_or_notMem (by simp [hnotLeft, hnotRight]),
        Mark.value_append_and hnotLeft hnotRight]
    · -- the row is split at the `AND` of the group
      rw [Mark.groupValue, Mark.split?_append _ (hright.split?_eq_none hnot truth)
        (hright.beginsWithRange truth)]
  calc Mark.groupValue (left.marks truth ++ .and :: right.marks truth) = true
      ↔ Mark.value (left.marks truth) = true ∧ Mark.value (right.marks truth) = true := by
        rw [hgroup, Bool.and_eq_true]
    _ ↔ meaningLeft truth ∧ meaningRight truth := by rw [hleft.value_iff, hright.value_iff]

end Conveys

/-- A restricted clause without an `OR` conveys that its time is in range as well. -/
lemma Conveys.restrict {inner clause : Clause} {qualifier : Option Qualifier} {bare exposed : Prop}
    {meaning : (Atom → Bool) → Prop}
    (hinner : Conveys source.timeColumn inner bare exposed meaning)
    (hnot : ∀ own, qualifier = some own → ∀ truth, .or ∉ inner.marks truth)
    (h : source.restrict (some inner) qualifier = .ok (some clause)) :
    Conveys source.timeColumn clause bare exposed
      fun truth => meaning truth ∧ source.InTime truth qualifier := by
  cases qualifier with
  | none =>
    rw [restrict_none, Except.ok.injEq, Option.some.injEq] at h
    subst h
    exact { hinner with value_iff := fun truth => by simp [hinner.value_iff, InTime] }
  | some own =>
    obtain ⟨range, hrange, hclause⟩ := restrict_some_eq_ok_iff.1 h
    rw [Option.map_some, Option.some.injEq] at hclause
    have hnot := hnot own rfl
    have hrow : ∀ truth, clause.marks truth = inner.marks truth ++
        [.and, .range (truth (.within source.timeColumn range))] := by
      intro truth
      rw [hclause]
      rfl
    refine ⟨?_, ?_, ?_, ?_, ?_⟩
    · rw [hclause]
      exact ⟨.inl rfl, hinner.delimited, rfl⟩
    · intro _ truth
      simp [hrow, hnot]
    · intro hexposed truth
      rw [hrow]
      exact Mark.split?_append_eq_none (hinner.split?_eq_none hexposed truth) rfl
    · intro truth
      rw [hrow]
      exact Mark.beginsWithRange_append_connective (.inl rfl) (hinner.beginsWithRange truth)
    · intro truth
      rw [hrow, Mark.value_append_and (hnot truth) (by simp), Bool.and_eq_true, hinner.value_iff]
      simp [Mark.value, Mark.valueFrom, Mark.holds, InTime, hrange]

/-! ### Compilation -/

/-- An atomic comparison holds when its test does. -/
lemma comparisonHolds_iff {test : Comparison} {column word operand : String}
    (h : source.comparisonClause test = .ok (some (.test column word operand)))
    (truth : Atom → Bool) :
    source.ComparisonHolds truth test ↔ truth (.test column word operand) = true := by
  obtain ⟨field, key, literal, hfield, hword, hliteral, hleaf⟩ := comparisonClause_eq_ok_iff.1 h
  exact ((expresses_leafClause hfield hword hliteral hleaf.symm).eval_iff truth).symm

/-- With the words of the sample event table the connectives are the standard ones, and there is
none for observations that follow each other. -/
lemma words_of_operators_eq (h : source.mapping.operators = Mapping.sampleOperators) :
    source.StandardWords ∧ source.mapping.word? ObservationConnective.followedBy.key = none := by
  have hsample := standardWords_sample .last
  have hfollowedBy : Mapping.sampleOperators.get? ObservationConnective.followedBy.key = none := by
    decide +kernel
  have hword : ∀ key, source.mapping.word? key = Mapping.sample.word? key := by
    intro key
    rw [Mapping.word?, Mapping.word?, h]
    rfl
  refine ⟨⟨?_, ?_, ?_, ?_⟩, (hword _).trans hfollowedBy⟩
  · exact (hword _).trans hsample.and
  · exact (hword _).trans hsample.or
  · exact (hword _).trans hsample.observationAnd
  · exact (hword _).trans hsample.observationOr

/-- The clause of a legible pattern conveys the pattern. -/
theorem conveys_clause (hoperators : source.mapping.operators = Mapping.sampleOperators)
    {pattern : Pattern} {qualifier : Option Qualifier} {clause : Clause}
    (hleaves : source.HasAtomicLeaves pattern) (hlegible : source.Legible pattern qualifier)
    (h : source.clause pattern qualifier = .ok (some clause)) :
    Conveys source.timeColumn clause (source.isOrShaped pattern = true)
      (source.exposesAnd pattern qualifier = true)
      fun truth => source.Holds truth pattern qualifier := by
  obtain ⟨hwords, hfollowedBy⟩ := words_of_operators_eq hoperators
  induction pattern generalizing qualifier clause with
  | comparison test =>
    obtain ⟨column, value, hcolumn, hquote, hsign, htest⟩ :=
      hleaves test (List.mem_singleton_self _)
    obtain ⟨inner, hinner, hrestrict⟩ := clause_comparison_eq_ok_iff.1 h
    obtain rfl := Except.ok.inj (htest.symm.trans hinner)
    refine Conveys.restrict (.of_marks_eq_operand ?_ (fun truth => rfl) fun truth => ?_)
      (fun _ _ truth => by simp [Clause.marks, Atom.mark]) hrestrict
    · exact ⟨hcolumn, rfl, value, rfl, hquote, hsign⟩
    · exact (comparisonHolds_iff htest truth).symm
  | combined connective left right ihLeft ihRight =>
    obtain ⟨word, first, second, hword, hfirst, hsecond, hcases⟩ :=
      clause_combined_eq_ok_iff.1 h
    rcases hcases with ⟨_, hnone⟩ | ⟨inner, hinner, hrestrict⟩
    · simp at hnone
    · obtain ⟨leftClause, rightClause, rfl, rfl, rfl⟩ := combine_eq_some_iff.1 hinner
      obtain ⟨hor, hand, hlegibleLeft, hlegibleRight⟩ := hlegible
      have hleft := ihLeft (hleaves.of_mem (by simp [Pattern.subpatterns])) hlegibleLeft hfirst
      have hright := ihRight (hleaves.of_mem (by simp [Pattern.subpatterns])) hlegibleRight hsecond
      cases connective with
      | and =>
        obtain rfl : "AND" = word := Option.some.inj (hwords.and.symm.trans hword)
        refine (hleft.group hright ?_).restrict (fun _ _ truth => ?_) hrestrict
        · exact (hand rfl).imp (And.imp ne_true_of_eq_false ne_true_of_eq_false)
            ne_true_of_eq_false
        · simp [joined, Clause.marks]
      | or =>
        obtain rfl : "OR" = word := Option.some.inj (hwords.or.symm.trans hword)
        obtain rfl := hor rfl
        refine (hleft.or hright (by simp [isOrShaped]) fun hexposed => ?_).restrict
          (fun _ hnone => by simp at hnone) hrestrict
        simpa [exposesAnd] using hexposed
  | observation inner ih =>
    exact ih (hleaves.of_mem (by simp [Pattern.subpatterns])) hlegible h
  | combinedObservation connective left right ihLeft ihRight =>
    obtain ⟨word, first, second, hword, hfirst, hsecond, hresult⟩ :=
      clause_combinedObservation_eq_ok_iff.1 h
    obtain ⟨leftClause, rightClause, rfl, rfl, rfl⟩ := combine_eq_some_iff.1 hresult.symm
    obtain ⟨hand, hlegibleLeft, hlegibleRight⟩ := hlegible
    have hleft := ihLeft (hleaves.of_mem (by simp [Pattern.subpatterns])) hlegibleLeft hfirst
    have hright := ihRight (hleaves.of_mem (by simp [Pattern.subpatterns])) hlegibleRight hsecond
    cases connective with
    | and =>
      obtain rfl : "AND" = word := Option.some.inj (hwords.observationAnd.symm.trans hword)
      cases qualifier with
      | none =>
        refine hleft.group hright ?_
        exact (hand rfl).imp (And.imp ne_true_of_eq_false ne_true_of_eq_false)
          fun hnone => ne_true_of_eq_false hnone.2
      | some own =>
        obtain ⟨hbareLeft, hbareRight⟩ := (hand rfl).resolve_right (by simp)
        exact hleft.and hright (ne_true_of_eq_false hbareLeft) (ne_true_of_eq_false hbareRight)
          (by simp [exposesAnd])
    | or =>
      obtain rfl : "OR" = word := Option.some.inj (hwords.observationOr.symm.trans hword)
      have hgrouped : (qualifier.isNone && ObservationConnective.or == .and) = false := by
        simp
      rw [hgrouped]
      refine hleft.or hright (by simp [isOrShaped]) fun hexposed => ?_
      simpa [exposesAnd] using hexposed
    | followedBy => simp [hfollowedBy] at hword
  | qualified inner own ih =>
    exact ih (hleaves.of_mem (by simp [Pattern.subpatterns])) hlegible h

/-- Legible patterns of atomic comparisons with the same predicate, if it is not empty, mean the
same: they hold under the same truth assignments to tests and time ranges. -/
theorem holds_iff_of_predicate_eq {first second : Pattern} {text : String}
    (hoperators : source.mapping.operators = Mapping.sampleOperators)
    (hleavesFirst : source.HasAtomicLeaves first) (hleavesSecond : source.HasAtomicLeaves second)
    (hlegibleFirst : source.Legible first none) (hlegibleSecond : source.Legible second none)
    (hfirst : source.predicate first = .ok text) (hsecond : source.predicate second = .ok text)
    (hne : text ≠ "") (truth : Atom → Bool) :
    source.Holds truth first none ↔ source.Holds truth second none := by
  obtain ⟨resultFirst, hresultFirst, rfl⟩ := predicate_eq_ok_iff.1 hfirst
  obtain ⟨resultSecond, hresultSecond, htext⟩ := predicate_eq_ok_iff.1 hsecond
  cases resultFirst with
  | none => exact absurd rfl hne
  | some clauseFirst =>
    cases resultSecond with
    | none => exact absurd htext.symm clauseFirst.text_ne_empty
    | some clauseSecond =>
      have hconveysFirst := conveys_clause hoperators hleavesFirst hlegibleFirst hresultFirst
      have hconveysSecond := conveys_clause hoperators hleavesSecond hlegibleSecond hresultSecond
      have hmarks := Clause.marks_eq_of_text_eq hconveysFirst.delimited hconveysSecond.delimited
        htext.symm truth
      rw [← hconveysFirst.value_iff, ← hconveysSecond.value_iff, hmarks]

/-! ### Files by name

Patterns over the names of files, in the sample event table.
-/

/-- The atom of a file with a given name. -/
def nameAtom (name : String) : Atom :=
  .test "filename" "=" (Operand.quoted (Operand.escaped (.string name)))

/-- The name of a file is tested in one column. -/
lemma comparisonClause_nameTest (scope : Scope) (name : String) :
    (DataSource.sample scope).comparisonClause (nameTest name) =
      .ok (some (nameAtom name).clause) := by
  have hword : Mapping.sample.word? Comparator.equal.key = some "=" := by decide +kernel
  have hcolumns : Mapping.sample.columns ⟨"file", "name"⟩ = ["filename"] := by decide +kernel
  have happlicable : (DataSource.sample scope).applicable ⟨"file", "name"⟩ (nameTest name).value =
      ["filename"] := by
    have hreference : isReference "name" = false := by decide
    rw [applicable, if_neg (by simp [hreference])]
    exact hcolumns
  refine comparisonClause_eq_ok_iff.2
    ⟨⟨"file", "name"⟩, "=", .string name, field?_nameTest name, hword, rfl, ?_⟩
  rw [leafClause, happlicable]
  rfl

/-- Patterns over names of one letter have atomic leaves. -/
lemma hasAtomicLeaves_of_letters {scope : Scope} {pattern : Pattern}
    (h : ∀ test, .comparison test ∈ pattern.subpatterns →
      test ∈ ["a", "b", "c", "d", "e"].map nameTest) :
    (DataSource.sample scope).HasAtomicLeaves pattern := by
  have hplain : ∀ name ∈ ["a", "b", "c", "d", "e"],
      '\x27' ∉ (Operand.escaped (.string name)).toList ∧
        '>' ∉ (Operand.escaped (.string name)).toList := by
    decide
  intro test hmem
  obtain ⟨name, hname, rfl⟩ := List.mem_map.1 (h test hmem)
  obtain ⟨hquote, hsign⟩ := hplain name hname
  exact ⟨"filename", Operand.escaped (.string name), by decide, hquote, hsign,
    comparisonClause_nameTest scope name⟩

/-- A name is no reference, and so its comparison does not become a bare disjunction. -/
@[simp] lemma isOrShaped_nameIs (name : String) : source.isOrShaped (nameIs name) = false := by
  have hreference : isReference "name" = false := by decide
  simp [nameIs, isOrShaped, field?_nameTest, hreference]

/-- A comparison of a name is legible. -/
@[simp] lemma legible_nameIs (name : String) (qualifier : Option Qualifier) :
    source.Legible (nameIs name) qualifier := trivial

/-- A comparison of a name exposes no conjunction. -/
@[simp] lemma exposesAnd_nameIs (name : String) (qualifier : Option Qualifier) :
    source.exposesAnd (nameIs name) qualifier = false := rfl

/-- A file has a given name within a time range when both its atom and the range hold. -/
lemma holds_nameIs (scope : Scope) (truth : Atom → Bool) (name : String)
    (qualifier : Option Qualifier) :
    (DataSource.sample scope).Holds truth (nameIs name) qualifier ↔
      truth (nameAtom name) = true ∧ (DataSource.sample scope).InTime truth qualifier := by
  rw [nameIs, Holds, comparisonHolds_iff (comparisonClause_nameTest scope name)]
  rfl

/-- The clause of a name is its atom, within the time range. -/
lemma clause_nameIs (scope : Scope) (name : String) (qualifier : Option Qualifier) :
    (DataSource.sample scope).clause (nameIs name) qualifier =
      (DataSource.sample scope).restrict (some (nameAtom name).clause) qualifier := by
  rw [nameIs, clause, comparisonClause_nameTest]
  rfl

/-- Everything is in time where there is no qualifier. -/
lemma inTime_none (truth : Atom → Bool) : source.InTime truth none ↔ True := Iff.rfl

/-- What is in time for the day is what its range says. -/
lemma inTime_dayQualifier (scope : Scope) (truth : Atom → Bool) :
    (DataSource.sample scope).InTime truth (some dayQualifier) ↔
      truth (.within defaultTimeColumn dayRange) = true := by
  simp [InTime, range_dayQualifier, DataSource.sample]

/-- The day puts its range behind a clause. -/
lemma restrict_dayQualifier (scope : Scope) (inner : Clause) :
    (DataSource.sample scope).restrict (some inner) (some dayQualifier) =
      .ok (some (.join "AND" inner (.within defaultTimeColumn dayRange))) :=
  restrict_some_eq_ok_iff.2 ⟨dayRange, range_dayQualifier, rfl⟩

/-- The words of the sample event table between patterns, where they are looked up. -/
lemma word_sample (scope : Scope) :
    (DataSource.sample scope).word Connective.or.key = .ok "OR" ∧
      (DataSource.sample scope).word ObservationConnective.and.key = .ok "AND" ∧
      (DataSource.sample scope).word ObservationConnective.or.key = .ok "OR" :=
  have hwords := standardWords_sample scope
  ⟨word_eq_ok_iff.2 hwords.or, word_eq_ok_iff.2 hwords.observationAnd,
    word_eq_ok_iff.2 hwords.observationOr⟩

/-- The qualifier reaches the left of a combination only where it is for each observation. -/
lemma leftQualifier_sample (scope : Scope) (qualifier : Option Qualifier) :
    (DataSource.sample scope).leftQualifier qualifier =
      match scope with
      | .last => none
      | .each => qualifier := rfl

/-- Two files on one day or one of two other files, and a last one. -/
def dayOrFiles : Pattern :=
  .combinedObservation .and
    (.combinedObservation .or
      (.combinedObservation .or
        (.qualified (.combinedObservation .and (fileNamed "a") (fileNamed "b")) dayQualifier)
        (fileNamed "c"))
      (fileNamed "d"))
    (fileNamed "e")

/-- The same with the alternatives put together the other way. -/
def dayOrFiles' : Pattern :=
  .combinedObservation .and
    (.combinedObservation .or
      (.qualified (.combinedObservation .and (fileNamed "a") (fileNamed "b")) dayQualifier)
      (.combinedObservation .or (fileNamed "c") (fileNamed "d")))
    (fileNamed "e")

/-- One of three files, and a last one. -/
def threeFiles : Pattern :=
  .combinedObservation .and
    (.observation (.combined .or (nameIs "a") (.combined .or (nameIs "b") (nameIs "c"))))
    (fileNamed "d")

/-- The same with an observation for each file. -/
def threeFiles' : Pattern :=
  .combinedObservation .and
    (.combinedObservation .or
      (.combinedObservation .or (fileNamed "a") (fileNamed "b")) (fileNamed "c"))
    (fileNamed "d")

/-- Two groupings with one text have one meaning: with a qualified part, where the qualifier is for
the last observation, and without qualifiers, where it is for each. -/
theorem holds_iff_of_predicate_eq_sample :
    (∃ text, (DataSource.sample .last).predicate dayOrFiles = .ok text ∧
      (DataSource.sample .last).predicate dayOrFiles' = .ok text ∧
      ∀ truth, (DataSource.sample .last).Holds truth dayOrFiles none ↔
        (DataSource.sample .last).Holds truth dayOrFiles' none) ∧
    ∃ text, (DataSource.sample .each).predicate threeFiles = .ok text ∧
      (DataSource.sample .each).predicate threeFiles' = .ok text ∧
      ∀ truth, (DataSource.sample .each).Holds truth threeFiles none ↔
        (DataSource.sample .each).Holds truth threeFiles' none := by
  have hday : (DataSource.sample .last).predicate dayOrFiles =
      .ok ("(filename = 'a' AND filename = 'b'" ++ (DataSource.sample .last).rangeText dayRange ++
        " OR filename = 'c' OR filename = 'd' AND filename = 'e')") := by
    simp only [dayOrFiles, fileNamed, predicate, clause, clause_nameIs, restrict_none,
      restrict_dayQualifier, word_sample, leftQualifier_sample, bind, Except.bind, combine]
    decide +kernel
  have hday' : (DataSource.sample .last).predicate dayOrFiles' =
      .ok ("(filename = 'a' AND filename = 'b'" ++ (DataSource.sample .last).rangeText dayRange ++
        " OR filename = 'c' OR filename = 'd' AND filename = 'e')") := by
    simp only [dayOrFiles', fileNamed, predicate, clause, clause_nameIs, restrict_none,
      restrict_dayQualifier, word_sample, leftQualifier_sample, bind, Except.bind, combine]
    decide +kernel
  have hthree : (DataSource.sample .each).predicate threeFiles =
      .ok "(filename = 'a' OR filename = 'b' OR filename = 'c' AND filename = 'd')" := by
    simp only [threeFiles, fileNamed, predicate, clause, clause_nameIs, restrict_none,
      word_sample, leftQualifier_sample, bind, Except.bind, combine]
    decide +kernel
  have hthree' : (DataSource.sample .each).predicate threeFiles' =
      .ok "(filename = 'a' OR filename = 'b' OR filename = 'c' AND filename = 'd')" := by
    simp only [threeFiles', fileNamed, predicate, clause, clause_nameIs, restrict_none,
      word_sample, leftQualifier_sample, bind, Except.bind, combine]
    decide +kernel
  refine ⟨⟨_, hday, hday', ?_⟩, _, hthree, hthree', ?_⟩
  · refine holds_iff_of_predicate_eq rfl (hasAtomicLeaves_of_letters ?_)
      (hasAtomicLeaves_of_letters ?_) ?_ ?_ hday hday' (by decide +kernel)
    · simp [dayOrFiles, fileNamed, nameIs, Pattern.subpatterns]
    · simp [dayOrFiles', fileNamed, nameIs, Pattern.subpatterns]
    · simp [dayOrFiles, fileNamed, Legible, AreConjuncts, isOrShaped, exposesAnd]
    · simp [dayOrFiles', fileNamed, Legible, AreConjuncts, isOrShaped, exposesAnd]
  · refine holds_iff_of_predicate_eq rfl (hasAtomicLeaves_of_letters ?_)
      (hasAtomicLeaves_of_letters ?_) (legible_of_isUnqualified ?_).1
      (legible_of_isUnqualified ?_).1 hthree hthree' (by decide)
    · simp [threeFiles, fileNamed, nameIs, Pattern.subpatterns]
    · simp [threeFiles', fileNamed, nameIs, Pattern.subpatterns]
    · simp [Pattern.IsUnqualified, threeFiles, fileNamed, nameIs, Pattern.subpatterns]
    · simp [Pattern.IsUnqualified, threeFiles', fileNamed, nameIs, Pattern.subpatterns]

/-! ### Patterns that are not legible -/

/-- Two patterns of atomic comparisons with the same predicate, which is not empty, and with
different meanings. -/
def Confuses (source : DataSource) (first second : Pattern) : Prop :=
  source.HasAtomicLeaves first ∧ source.HasAtomicLeaves second ∧
    (∃ text, source.predicate first = .ok text ∧ source.predicate second = .ok text ∧ text ≠ "") ∧
    ∃ truth, ¬(source.Holds truth first none ↔ source.Holds truth second none)

/-- Each condition on legible patterns is needed: a time range behind a disjunction of comparisons,
a disjunction in a conjunction without parentheses, and a conjunction without parentheses at the
end of one with parentheses let the predicate stand for two meanings. -/
theorem exists_confused_patterns :
    (DataSource.sample .last).Confuses
      (.qualified (.observation (.combined .or (nameIs "a") (nameIs "b"))) dayQualifier)
      (.qualified (.combinedObservation .or (fileNamed "a") (fileNamed "b")) dayQualifier) ∧
    (DataSource.sample .each).Confuses
      (.qualified (.combinedObservation .and (fileNamed "a")
        (.combinedObservation .or (fileNamed "b") (fileNamed "c"))) dayQualifier)
      (.qualified (.combinedObservation .or
        (.combinedObservation .and (fileNamed "a") (fileNamed "b")) (fileNamed "c"))
        dayQualifier) ∧
    (DataSource.sample .last).Confuses
      (.combinedObservation .and
        (.combinedObservation .or (fileNamed "a")
          (.qualified (.combinedObservation .and (fileNamed "b") (fileNamed "c")) dayQualifier))
        (.qualified (fileNamed "d") dayQualifier))
      (.combinedObservation .and
        (.combinedObservation .or (fileNamed "a") (fileNamed "b"))
        (.qualified (.combinedObservation .and (.qualified (fileNamed "c") dayQualifier)
          (fileNamed "d")) dayQualifier)) := by
  refine ⟨⟨hasAtomicLeaves_of_letters ?_, hasAtomicLeaves_of_letters ?_, ?_, ?_⟩,
    ⟨hasAtomicLeaves_of_letters ?_, hasAtomicLeaves_of_letters ?_, ?_, ?_⟩,
    hasAtomicLeaves_of_letters ?_, hasAtomicLeaves_of_letters ?_, ?_, ?_⟩
  · simp [nameIs, Pattern.subpatterns]
  · simp [fileNamed, nameIs, Pattern.subpatterns]
  · refine ⟨"filename = 'a' OR filename = 'b'" ++ (DataSource.sample .last).rangeText dayRange,
      ?_, ?_, by decide +kernel⟩
    · simp only [predicate, clause, clause_nameIs, restrict_none, restrict_dayQualifier,
        word_sample, bind, Except.bind, combine]
      decide +kernel
    · simp only [fileNamed, predicate, clause, clause_nameIs, restrict_none, restrict_dayQualifier,
        word_sample, leftQualifier_sample, bind, Except.bind, combine]
      decide +kernel
  · -- out of time a file named `a` is one of two observations, but no observation of one of two
    refine ⟨(· = nameAtom "a"), ?_⟩
    simp only [fileNamed, Holds, holds_nameIs, inTime_none, inTime_dayQualifier,
      leftQualifier_sample, Connective.Joins, ObservationConnective.Joins]
    decide
  · simp [fileNamed, nameIs, Pattern.subpatterns]
  · simp [fileNamed, nameIs, Pattern.subpatterns]
  · refine ⟨"filename = 'a'" ++ (DataSource.sample .each).rangeText dayRange ++
      " AND filename = 'b'" ++ (DataSource.sample .each).rangeText dayRange ++
      " OR filename = 'c'" ++ (DataSource.sample .each).rangeText dayRange, ?_, ?_,
      by decide +kernel⟩
    · simp only [fileNamed, predicate, clause, clause_nameIs, restrict_dayQualifier, word_sample,
        leftQualifier_sample, bind, Except.bind, combine]
      decide +kernel
    · simp only [fileNamed, predicate, clause, clause_nameIs, restrict_dayQualifier, word_sample,
        leftQualifier_sample, bind, Except.bind, combine]
      decide +kernel
  · -- in time, a file named `c` alone is enough for the disjunction, but not for the conjunction
    refine ⟨(· ∈ [nameAtom "c", .within defaultTimeColumn dayRange]), ?_⟩
    simp only [fileNamed, Holds, holds_nameIs, inTime_dayQualifier, leftQualifier_sample,
      ObservationConnective.Joins]
    decide
  · simp [fileNamed, nameIs, Pattern.subpatterns]
  · simp [fileNamed, nameIs, Pattern.subpatterns]
  · refine ⟨"(filename = 'a' OR filename = 'b' AND filename = 'c'" ++
      (DataSource.sample .last).rangeText dayRange ++ " AND filename = 'd'" ++
      (DataSource.sample .last).rangeText dayRange ++ ")", ?_, ?_, by decide +kernel⟩
    · simp only [fileNamed, predicate, clause, clause_nameIs, restrict_none, restrict_dayQualifier,
        word_sample, leftQualifier_sample, bind, Except.bind, combine]
      decide +kernel
    · simp only [fileNamed, predicate, clause, clause_nameIs, restrict_none, restrict_dayQualifier,
        word_sample, leftQualifier_sample, bind, Except.bind, combine]
      decide +kernel
  · -- in time, files named `a` and `d` are enough when `c` is wanted with `b` only
    refine ⟨(· ∈ [nameAtom "a", nameAtom "d", .within defaultTimeColumn dayRange]), ?_⟩
    simp only [fileNamed, Holds, holds_nameIs, inTime_none, inTime_dayQualifier,
      leftQualifier_sample, ObservationConnective.Joins]
    decide

end DataSource

end PatternSql
