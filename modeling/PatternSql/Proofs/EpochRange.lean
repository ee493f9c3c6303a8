import PatternSql.Proofs.Normalization
import PatternSql.Proofs.TimestampReaders

/-!
# The range of instants

How far from 1970 the instant of a timestamp can be.  Both readers look at the year before they
count: one takes four digits, the other any number of them with a sign, but only years of a
certain range (`isYear`).  The other parts add less than a year of days, a day and an offset to
that (`IsNear`), so that the milliseconds stay below `2 ^ 53` on both sides of 1970
(`natAbs_lt_of_isNear`).

Milliseconds are kept in 64 bits with a sign, and numbers below `2 ^ 53` fit them.  So nothing is
lost when a literal is normalised or the time range of a qualifier is read
(`Temporal.millis_fits`).
-/

namespace PatternSql

namespace Timestamp

open Text Json.Numeral Calendar

/-! ### What the readers find -/

/-- An instant whose parts are in the range of the calendar: its year is one that dates may have,
its date and its time of day exist, it has less than a second of milliseconds, and its zone is
less than a day ahead or behind. -/
def IsNear (value : Int) : Prop :=
  ∃ (date : Date) (clock : Clock) (offset : Int), isYear date.year = true ∧ clock.millis < 1000 ∧
    (-1440 < offset ∧ offset < 1440) ∧ instant? date clock offset = some value

/-- A fraction has less than a second of milliseconds. -/
lemma fractionMillis_lt {fraction : List Char} (h : ∀ c ∈ fraction, c.isDigit = true) :
    fractionMillis fraction < 1000 := by
  have hdigits : ∀ c ∈ (fraction ++ ['0', '0', '0']).take 3, c.isDigit = true := by
    intro c hc
    rcases List.mem_append.1 (List.mem_of_mem_take hc) with hc | hc
    · exact h c hc
    · simp only [List.mem_cons, List.not_mem_nil, or_false, or_self] at hc
      rw [hc]
      rfl
  have hlength : ((fraction ++ ['0', '0', '0']).take 3).length = 3 := by simp
  have hlt := digitsValue_lt hdigits
  rwa [hlength] at hlt

/-- A zone is less than a day ahead or behind. -/
lemma SpellsZone.offset_lt {offset : Int} {zone : List Char} (h : SpellsZone offset zone) :
    -1440 < offset ∧ offset < 1440 := by
  cases h <;> omega

/-- A timestamp with a zone has four digits for its year. -/
lemma isNear_of_zoned? {cs : List Char} {value : Int} (h : zoned? cs = some value) :
    IsNear value := by
  obtain ⟨t, _, hinstant⟩ := zoned?_eq_some_iff.1 h
  exact ⟨t.date, t.clock, t.offset, t.isYear_year, fractionMillis_lt t.fraction_isDigit,
    t.zone_spells.offset_lt, hinstant⟩

/-- A timestamp without a zone may have any number of digits for its year, but the year is one
that dates may have. -/
lemma isNear_of_zoneless? {cs : List Char} {value : Int} (h : zoneless? cs = some value) :
    IsNear value := by
  obtain ⟨⟨year, _⟩, _, h⟩ := Option.bind_eq_some_iff.1 h
  obtain ⟨_, _, h⟩ := Option.bind_eq_some_iff.1 h
  obtain ⟨⟨month, _⟩, _, h⟩ := Option.bind_eq_some_iff.1 h
  obtain ⟨_, _, h⟩ := Option.bind_eq_some_iff.1 h
  obtain ⟨⟨day, _⟩, _, h⟩ := Option.bind_eq_some_iff.1 h
  obtain ⟨_, _, h⟩ := Option.bind_eq_some_iff.1 h
  obtain ⟨⟨hour, _⟩, _, h⟩ := Option.bind_eq_some_iff.1 h
  obtain ⟨_, _, h⟩ := Option.bind_eq_some_iff.1 h
  obtain ⟨⟨minute, _⟩, _, h⟩ := Option.bind_eq_some_iff.1 h
  obtain ⟨_, _, h⟩ := Option.bind_eq_some_iff.1 h
  obtain ⟨⟨second, _⟩, _, h⟩ := Option.bind_eq_some_iff.1 h
  obtain ⟨⟨millis, _⟩, hmillis, h⟩ := Option.bind_eq_some_iff.1 h
  obtain ⟨hchecked, hinstant⟩ := Option.ite_none_right_eq_some.1 h
  obtain ⟨fraction, hfraction, rfl, _⟩ := exists_fraction_of_takeFraction? hmillis
  exact ⟨_, _, 0, (Bool.and_eq_true_iff.1 hchecked).2, fractionMillis_lt hfraction, by decide,
    hinstant⟩

/-- Every timestamp that is read in one of the two forms is near. -/
lemma isNear_of_millis? {text : String} {value : Int} (h : millis? text = some value) :
    IsNear value := by
  rw [millis?, plain?, Option.or_eq_some_iff] at h
  rcases h with hzoned | ⟨_, hzoneless⟩
  · exact isNear_of_zoned? hzoned
  · exact isNear_of_zoneless? hzoneless

/-! ### The range -/

/-- The dates of the years that dates may have, by their numbers. -/
lemma dayNumber_bounds {date : Date} (hvalid : date.isValid = true)
    (hyear : isYear date.year = true) :
    -96465292 ≤ date.dayNumber ∧ date.dayNumber ≤ 95026236 := by
  simp only [isYear, Bool.and_eq_true, decide_eq_true_eq] at hyear
  obtain ⟨hbegin, hend⟩ := Date.dayNumber_mem_year hvalid
  have hfirst : daysBeforeYear (-262143) ≤ daysBeforeYear date.year := daysBeforeYear_mono hyear.1
  have hlast : daysBeforeYear (date.year + 1) ≤ daysBeforeYear 262143 :=
    daysBeforeYear_mono (by omega)
  have hends : daysBeforeYear (-262143) - Date.epochDays = -96465292 ∧
      daysBeforeYear 262143 - Date.epochDays = 95026237 := by decide
  omega

/-- The milliseconds of a near instant are below `2 ^ 53`, before 1970 and after it. -/
lemma natAbs_lt_of_isNear {value : Int} (h : IsNear value) : value.natAbs < 2 ^ 53 := by
  obtain ⟨date, clock, offset, hyear, hmillis, hoffset, hinstant⟩ := h
  obtain ⟨hexist, hvalue⟩ := Option.ite_none_right_eq_some.1 hinstant
  obtain ⟨hdate, hclock⟩ := Bool.and_eq_true_iff.1 hexist
  obtain rfl := Option.some.inj hvalue
  have hdays := dayNumber_bounds hdate hyear
  simp only [Clock.isValid, Bool.and_eq_true, decide_eq_true_eq] at hclock
  simp only [epochMillis, Clock.millisOfDay]
  omega

end Timestamp

/-! ### Numbers in 64 bits -/

/-- Whether milliseconds are kept as they are in 64 bits with a sign, and are even below
`2 ^ 53`. -/
def IsExact (value : Int) : Prop :=
  value.natAbs < 2 ^ 53 ∧ (Int64.ofInt value).toInt = value

/-- A number of less than 54 bits is exact. -/
lemma isExact_of_natAbs_lt {value : Int} (h : value.natAbs < 2 ^ 53) : IsExact value :=
  ⟨h, Int64.toInt_ofInt_of_le (by omega) (by omega)⟩

namespace Temporal

/-- The milliseconds of a timestamp are exact. -/
lemma isExact_of_millis {text : String} {value : Int} (h : millis text = .ok value) :
    IsExact value := by
  unfold millis at h
  split at h
  · rename_i found hfound
    obtain rfl : found = value := by simpa using h
    exact isExact_of_natAbs_lt (Timestamp.natAbs_lt_of_isNear (Timestamp.isNear_of_millis? hfound))
  · simp at h

/-- A string is normalised to the milliseconds that it denotes. -/
lemma exists_of_normalize_string {text : String} {counted : Literal}
    (h : normalize (.string text) = .ok counted) :
    ∃ value number, millis text = .ok value ∧ counted = .integer number ∧
      number.toInt = value := by
  obtain ⟨value, hvalue, rfl⟩ := map_eq_ok_iff.1 h
  exact ⟨value, Int64.ofInt value, hvalue, rfl, (isExact_of_millis hvalue).2⟩

/-- The time range of a qualifier is between two timestamps. -/
lemma exists_millis_of_range {qualifier : Qualifier} {range : TimeRange}
    (h : qualifier.range = .ok range) :
    ∃ first second, millis first = .ok range.start ∧ millis second = .ok range.stop := by
  unfold Qualifier.range at h
  split at h
  · obtain ⟨start, hstart, h⟩ := bind_eq_ok_iff.1 h
    obtain ⟨stop, hstop, h⟩ := bind_eq_ok_iff.1 h
    obtain rfl := Except.ok.inj h
    exact ⟨_, _, hstart, hstop⟩
  · simp at h

/-- Milliseconds never leave their range, however a timestamp is written: not those of a timestamp
itself, not those that take the place of a string when a literal is normalised, and not the ends
of the time range of a qualifier. -/
theorem isExact_millis :
    (∀ text value, millis text = .ok value → IsExact value) ∧
      (∀ literal result, normalize literal = .ok result →
        List.Forall₂ (fun scalar counted => ∀ text, scalar = .string text →
            ∃ value number, millis text = .ok value ∧ counted = .integer number ∧
              number.toInt = value)
          literal.scalars result.scalars) ∧
      ∀ (qualifier : Qualifier) (range : TimeRange), qualifier.range = .ok range →
        IsExact range.start ∧ IsExact range.stop := by
  refine ⟨fun _ _ => isExact_of_millis, ?_, ?_⟩
  · intro literal result h
    refine (forall₂_scalars_of_normalize literal h).imp ?_
    rintro scalar counted hcounted text rfl
    exact exists_of_normalize_string hcounted
  · intro qualifier range h
    obtain ⟨first, second, hstart, hstop⟩ := exists_millis_of_range h
    exact ⟨isExact_of_millis hstart, isExact_of_millis hstop⟩

/-- The last instant that a timestamp can have, the first one in a set beside a number, and both as
the ends of a time range. -/
theorem isExact_millis_ends :
    (millis "+00262142-12-31T23:59:60.999" = .ok 8210266876800999 ∧ IsExact 8210266876800999) ∧
      (∃ number, normalize (.set [.integer 5, .string "-262143-1-1T0:0:0"]) =
          .ok (.set [.integer 5, .integer number]) ∧ number.toInt = -8334601228800000) ∧
      Qualifier.range ⟨"START t'-262143-1-1T0:0:0' STOP t'+262142-12-31T23:59:60.999'"⟩ =
          .ok ⟨-8334601228800000, 8210266876800999⟩ ∧ IsExact (-8334601228800000) := by
  obtain ⟨hmillis, hnormalize, hrange⟩ := isExact_millis
  have hlast : millis "+00262142-12-31T23:59:60.999" = .ok 8210266876800999 := by decide +kernel
  have hfirst : millis "-262143-1-1T0:0:0" = .ok (-8334601228800000) := by decide +kernel
  have hends : Qualifier.range ⟨"START t'-262143-1-1T0:0:0' STOP t'+262142-12-31T23:59:60.999'"⟩ =
      .ok ⟨-8334601228800000, 8210266876800999⟩ := by decide +kernel
  have hnormal : normalize (.set [.integer 5, .string "-262143-1-1T0:0:0"]) =
      .ok (.set [.integer 5, .integer (Int64.ofInt (-8334601228800000))]) := by
    simp only [normalize, normalizeList, hfirst, Except.map]
  refine ⟨⟨hlast, hmillis _ _ hlast⟩, ⟨_, hnormal, ?_⟩, hends, (hrange _ _ hends).1⟩
  have hscalars := hnormalize _ _ hnormal
  simp only [Literal.scalars, Literal.scalarsList, List.cons_append, List.nil_append,
    List.forall₂_cons] at hscalars
  obtain ⟨value, number, hvalue, hnumber, hexact⟩ := hscalars.2.1 _ rfl
  obtain rfl := Except.ok.inj (hfirst.symm.trans hvalue)
  obtain rfl := Literal.integer.inj hnumber
  exact hexact

end Temporal

end PatternSql
