import PatternSql.Proofs.Normalization

/-!
# The bounds of qualifiers

Where a qualifier has its bounds, and what becomes of a qualifier that lacks one.

A quote opens a text and the next one closes it, so that the first bound stands between the first
two quotes of a qualifier and the second bound behind the third one (`Qualifier.Opens`).  A fourth
quote closes the second bound (`Qualifier.Encloses`).  Without it the bound goes on to the end of
the qualifier (`Qualifier.LeavesOpen`), and is taken for a bound all the same: the time range asks
for four pieces between the quotes, and three quotes are enough for that.

Cut at the quotes, a qualifier shows both cases by the number of its pieces
(`Qualifier.encloses_iff`, `Qualifier.leavesOpen_iff`).
-/

namespace PatternSql

namespace Qualifier

open Text

variable {qualifier : Qualifier} {start stop : List Char}

/-! ### Quoted bounds -/

/-- Whether a qualifier has a text between its first two quotes, and a rest behind its third. -/
def Opens (qualifier : Qualifier) (start rest : List Char) : Prop :=
  ∃ before between, qualifier.text.toList =
      before ++ '\x27' :: (start ++ '\x27' :: (between ++ '\x27' :: rest)) ∧
    '\x27' ∉ before ∧ '\x27' ∉ start ∧ '\x27' ∉ between

/-- Whether a qualifier has two quoted texts, each between a quote that opens it and one that
closes it. -/
def Encloses (qualifier : Qualifier) (start stop : List Char) : Prop :=
  '\x27' ∉ stop ∧ ∃ after, qualifier.Opens start (stop ++ '\x27' :: after)

/-- Whether a qualifier has a quoted text and another one that no quote closes. -/
def LeavesOpen (qualifier : Qualifier) (start stop : List Char) : Prop :=
  '\x27' ∉ stop ∧ qualifier.Opens start stop

/-- What is behind the third quote is cut into the pieces from the fourth on. -/
lemma exists_opens_iff {more : List (List Char)} (hmore : more ≠ []) :
    (∃ rest, qualifier.Opens start rest ∧ pieces '\x27' rest = more) ↔
      ∃ before between,
        pieces '\x27' qualifier.text.toList = before :: start :: between :: more := by
  simp only [pieces_eq_cons_iff, reduceCtorEq, and_false, false_or, hmore]
  constructor
  · rintro ⟨rest, ⟨before, between, htext, hbefore, hstart, hbetween⟩, hpieces⟩
    exact ⟨before, between, hbefore, _, htext, hstart, _, rfl, hbetween, rest, rfl, hpieces⟩
  · rintro ⟨before, between, hbefore, _, htext, hstart, _, rfl, hbetween, rest, rfl, hpieces⟩
    exact ⟨rest, ⟨before, between, htext, hbefore, hstart, hbetween⟩, hpieces⟩

/-- Two quoted texts are the second and the fourth of at least five pieces. -/
lemma encloses_iff :
    qualifier.Encloses start stop ↔ ∃ before between last more,
      pieces '\x27' qualifier.text.toList =
        before :: start :: between :: stop :: last :: more := by
  constructor
  · rintro ⟨hstop, after, hopens⟩
    obtain ⟨last, more, hafter⟩ := List.exists_cons_of_ne_nil (pieces_ne_nil '\x27' after)
    obtain ⟨before, between, hpieces⟩ := (exists_opens_iff (List.cons_ne_nil _ _)).1
      ⟨_, hopens, pieces_append_cons hstop after⟩
    exact ⟨before, between, last, more, hafter ▸ hpieces⟩
  · rintro ⟨before, between, last, more, hpieces⟩
    obtain ⟨rest, hopens, hrest⟩ := (exists_opens_iff (List.cons_ne_nil _ _)).2
      ⟨before, between, hpieces⟩
    obtain ⟨hstop, ⟨_, hnil⟩ | ⟨after, rfl, _⟩⟩ := pieces_eq_cons_iff.1 hrest
    · cases hnil
    · exact ⟨hstop, after, hopens⟩

/-- A quoted text and one left open are the second and the last of four pieces. -/
lemma leavesOpen_iff :
    qualifier.LeavesOpen start stop ↔ ∃ before between,
      pieces '\x27' qualifier.text.toList = [before, start, between, stop] := by
  rw [← exists_opens_iff (List.cons_ne_nil stop [])]
  constructor
  · rintro ⟨hstop, hopens⟩
    exact ⟨stop, hopens, pieces_of_not_mem hstop⟩
  · rintro ⟨rest, hopens, hrest⟩
    obtain ⟨hstop, ⟨rfl, _⟩ | ⟨after, _, hnil⟩⟩ := pieces_eq_cons_iff.1 hrest
    · exact ⟨hstop, hopens⟩
    · exact absurd hnil (pieces_ne_nil _ after)

/-- Two texts are enclosed where there are four quotes or more. -/
lemma exists_encloses_iff :
    (∃ start stop, qualifier.Encloses start stop) ↔
      4 ≤ qualifier.text.toList.count '\x27' := by
  have hlength := length_pieces '\x27' qualifier.text.toList
  simp only [encloses_iff]
  constructor
  · rintro ⟨start, stop, before, between, last, more, hpieces⟩
    simp only [hpieces, List.length_cons] at hlength
    omega
  · intro hcount
    rcases hpieces : pieces '\x27' qualifier.text.toList with
      _ | ⟨before, _ | ⟨start, _ | ⟨between, _ | ⟨stop, _ | ⟨last, more⟩⟩⟩⟩⟩
    case cons.cons.cons.cons.cons => exact ⟨start, stop, before, between, last, more, rfl⟩
    -- with fewer than five pieces there are fewer than four quotes
    all_goals
      simp only [hpieces, List.length_cons, List.length_nil] at hlength
      omega

/-- The second of two texts is left open where there are three quotes. -/
lemma exists_leavesOpen_iff :
    (∃ start stop, qualifier.LeavesOpen start stop) ↔
      qualifier.text.toList.count '\x27' = 3 := by
  have hlength := length_pieces '\x27' qualifier.text.toList
  simp only [leavesOpen_iff]
  constructor
  · rintro ⟨start, stop, before, between, hpieces⟩
    simp only [hpieces, List.length_cons, List.length_nil] at hlength
    omega
  · intro hcount
    rw [hcount] at hlength
    obtain ⟨before, start, between, stop, hpieces⟩ := List.length_eq_four.1 hlength
    exact ⟨start, stop, before, between, hpieces⟩

/-! ### Time ranges -/

/-- Whether a qualifier has two bounds, the second one closed or not. -/
def HasBounds (qualifier : Qualifier) (start stop : List Char) : Prop :=
  qualifier.Encloses start stop ∨ qualifier.LeavesOpen start stop

/-- The bounds are the second and the fourth of at least four pieces. -/
lemma hasBounds_iff :
    qualifier.HasBounds start stop ↔ ∃ before between more,
      pieces '\x27' qualifier.text.toList = before :: start :: between :: stop :: more := by
  rw [HasBounds, encloses_iff, leavesOpen_iff]
  constructor
  · rintro (⟨before, between, last, more, hpieces⟩ | ⟨before, between, hpieces⟩)
    · exact ⟨before, between, last :: more, hpieces⟩
    · exact ⟨before, between, [], hpieces⟩
  · rintro ⟨before, between, more, hpieces⟩
    cases more with
    | nil => exact .inr ⟨before, between, hpieces⟩
    | cons last more => exact .inl ⟨before, between, last, more, hpieces⟩

/-- The time range of a qualifier with bounds is read from them, the first one first. -/
lemma range_of_hasBounds (h : qualifier.HasBounds start stop) :
    qualifier.range = (do
      let start ← Temporal.millis (String.ofList start)
      let stop ← Temporal.millis (String.ofList stop)
      .ok { start, stop }) := by
  obtain ⟨before, between, more, hpieces⟩ := hasBounds_iff.1 h
  rw [range, hpieces]

/-- A qualifier without bounds is malformed. -/
lemma range_of_not_hasBounds (h : ∀ start stop, ¬qualifier.HasBounds start stop) :
    qualifier.range = .error (.malformedQualifier qualifier.text) := by
  unfold range
  split
  · rename_i before start between stop more hpieces
    exact absurd (hasBounds_iff.2 ⟨before, between, more, hpieces⟩) (h start stop)
  · rfl

/-- A qualifier has a time range exactly when it has two bounds that are timestamps. -/
lemma range_eq_ok_iff {range : TimeRange} :
    qualifier.range = .ok range ↔ ∃ start stop, qualifier.HasBounds start stop ∧
      Temporal.millis (String.ofList start) = .ok range.start ∧
      Temporal.millis (String.ofList stop) = .ok range.stop := by
  constructor
  · intro h
    by_cases hbounds : ∃ start stop, qualifier.HasBounds start stop
    · obtain ⟨start, stop, hbounds⟩ := hbounds
      rw [range_of_hasBounds hbounds] at h
      obtain ⟨first, hfirst, h⟩ := bind_eq_ok_iff.1 h
      obtain ⟨second, hsecond, h⟩ := bind_eq_ok_iff.1 h
      obtain rfl := Except.ok.inj h
      exact ⟨start, stop, hbounds, hfirst, hsecond⟩
    · simp only [not_exists] at hbounds
      rw [range_of_not_hasBounds hbounds] at h
      cases h
  · rintro ⟨start, stop, hbounds, hstart, hstop⟩
    rw [range_of_hasBounds hbounds, bind_eq_ok_iff]
    exact ⟨_, hstart, bind_eq_ok_iff.2 ⟨_, hstop, rfl⟩⟩

/-- A qualifier is called malformed exactly when it has no bounds, whatever these are. -/
lemma range_eq_malformedQualifier_iff :
    qualifier.range = .error (.malformedQualifier qualifier.text) ↔
      ∀ start stop, ¬qualifier.HasBounds start stop := by
  refine ⟨fun h start stop hbounds => ?_, range_of_not_hasBounds⟩
  rw [range_of_hasBounds hbounds, bind_eq_error_iff] at h
  rcases h with hstart | ⟨first, _, h⟩
  · cases (Temporal.millis_eq_error_iff.1 hstart).2
  · rcases bind_eq_error_iff.1 h with hstop | ⟨second, _, h⟩
    · cases (Temporal.millis_eq_error_iff.1 hstop).2
    · cases h

/-- Which qualifiers have a time range and which are malformed.  With four quotes or more a
qualifier encloses two texts, and its range is between the instants of these.  With three quotes it
leaves the second text open, and the range is read all the same, as if a quote stood at the end.
With fewer quotes it is malformed. -/
theorem range_iff_bounds (qualifier : Qualifier) :
    (∀ range : TimeRange, qualifier.range = .ok range ↔
        ∃ start stop, (qualifier.Encloses start stop ∨ qualifier.LeavesOpen start stop) ∧
          Temporal.millis (String.ofList start) = .ok range.start ∧
          Temporal.millis (String.ofList stop) = .ok range.stop) ∧
      (qualifier.range = .error (.malformedQualifier qualifier.text) ↔
        ∀ start stop, ¬qualifier.Encloses start stop ∧ ¬qualifier.LeavesOpen start stop) ∧
      ((∃ start stop, qualifier.Encloses start stop) ↔
        4 ≤ qualifier.text.toList.count '\x27') ∧
      ((∃ start stop, qualifier.LeavesOpen start stop) ↔
        qualifier.text.toList.count '\x27' = 3) := by
  refine ⟨fun range => range_eq_ok_iff, ?_, exists_encloses_iff, exists_leavesOpen_iff⟩
  simp only [range_eq_malformedQualifier_iff, HasBounds, not_or]

/-- A qualifier whose last quote is missing. -/
def unclosed : Qualifier :=
  ⟨"START t'2020-01-01T00:00:00Z' STOP t'2020-01-02T00:00:00Z"⟩

/-- It has a time range, although it encloses one text only. -/
theorem range_unclosed :
    unclosed.range = .ok ⟨1577836800000, 1577923200000⟩ ∧
      unclosed.text.toList.count '\x27' = 3 ∧
      ∀ start stop, ¬unclosed.Encloses start stop := by
  have hcount : unclosed.text.toList.count '\x27' = 3 := by simp [unclosed]
  refine ⟨by decide, hcount, fun start stop hencloses => ?_⟩
  have hfour := exists_encloses_iff.1 ⟨start, stop, hencloses⟩
  omega

end Qualifier

end PatternSql
