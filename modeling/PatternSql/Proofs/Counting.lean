import PatternSql.Proofs.EpochRange

/-!
# Counted literals

What a literal is normalised to, said by its form.

`Literal.CountsTo` relates a literal to one of the same form, with numbers of milliseconds in
place of timestamps: an integer to itself, a timestamp to its instant, and a set to a set whose
members are what its own members count to, in their order.  Normalising finds exactly that
(`Temporal.normalize_eq_ok_iff_countsTo`).  It is here that instants have to fit into the 64 bits
of an integer.

Scalars are looked at from left to right, so that the fault names the first one that is no
instant (`Literal.firstFault?_eq_some_iff`).
-/

namespace PatternSql

namespace Literal

/-- A literal, and the one that it is with its timestamps counted. -/
inductive CountsTo : Literal → Literal → Prop
  | integer (value : Int64) : CountsTo (.integer value) (.integer value)
  | string {text : String} {value : Int64} (h : Timestamp.millis? text = some value.toInt) :
    CountsTo (.string text) (.integer value)
  | set {members counted : List Literal} (h : List.Forall₂ CountsTo members counted) :
    CountsTo (.set members) (.set counted)

/-- A set counts to the sets of what its members count to. -/
lemma countsTo_set_iff {members : List Literal} {result : Literal} :
    (Literal.set members).CountsTo result ↔
      ∃ counted, List.Forall₂ CountsTo members counted ∧ result = .set counted := by
  constructor
  · rintro (_ | _ | ⟨hmembers⟩)
    exact ⟨_, hmembers, rfl⟩
  · rintro ⟨counted, hmembers, rfl⟩
    exact .set hmembers

/-- The first fault is behind instants only. -/
lemma firstFault?_eq_some_iff {literal scalar : Literal} :
    literal.firstFault? = some scalar ↔
      ∃ before after, literal.scalars = before ++ scalar :: after ∧
        (∀ earlier ∈ before, earlier.isInstant = true) ∧ scalar.isInstant = false := by
  rw [firstFault?, List.find?_eq_some_iff_append]
  constructor
  · rintro ⟨hscalar, before, after, hscalars, hbefore⟩
    exact ⟨before, after, hscalars, by simpa using hbefore, by simpa using hscalar⟩
  · rintro ⟨before, after, hscalars, hbefore, hscalar⟩
    exact ⟨by simpa using hscalar, before, after, hscalars, by simpa using hbefore⟩

/-- There is no fault where all scalars are instants. -/
lemma firstFault?_eq_none_iff {literal : Literal} :
    literal.firstFault? = none ↔ ∀ scalar ∈ literal.scalars, scalar.isInstant = true := by
  simp [firstFault?, List.find?_eq_none]

end Literal

namespace Temporal

open Literal

/-- A string is normalised to the integer of its instant. -/
lemma normalize_string_eq_ok_iff {text : String} {result : Literal} :
    normalize (.string text) = .ok result ↔
      ∃ value : Int64, Timestamp.millis? text = some value.toInt ∧ result = .integer value := by
  constructor
  · intro h
    obtain ⟨value, number, hmillis, rfl, rfl⟩ := exists_of_normalize_string h
    exact ⟨number, millis_eq_ok_iff.1 hmillis, rfl⟩
  · rintro ⟨value, hmillis, rfl⟩
    rw [normalize, millis_eq_ok_iff.2 hmillis, Except.map, Int64.ofInt_toInt]

/-- Members are normalised one after the other. -/
lemma normalizeList_cons_eq_ok_iff {member : Literal} {rest results : List Literal} :
    normalizeList (member :: rest) = .ok results ↔
      ∃ first others, normalize member = .ok first ∧ normalizeList rest = .ok others ∧
        results = first :: others := by
  rw [normalizeList]
  cases normalize member with
  | error fault => simp
  | ok first => simp [map_eq_ok_iff, eq_comm (a := results)]

mutual

/-- A literal is normalised to what it counts to. -/
theorem normalize_eq_ok_iff_countsTo (literal : Literal) {result : Literal} :
    normalize literal = .ok result ↔ literal.CountsTo result := by
  cases literal with
  | boolean value =>
    constructor
    · intro h
      simp [normalize] at h
    · rintro ⟨⟩
  | integer value =>
    constructor
    · intro h
      obtain rfl : Literal.integer value = result := by simpa [normalize] using h
      exact .integer value
    · rintro ⟨⟩
      rfl
  | float value =>
    constructor
    · intro h
      simp [normalize] at h
    · rintro ⟨⟩
  | string text =>
    rw [normalize_string_eq_ok_iff]
    constructor
    · rintro ⟨value, hmillis, rfl⟩
      exact .string hmillis
    · rintro (_ | ⟨hmillis⟩)
      exact ⟨_, hmillis, rfl⟩
  | set members =>
    rw [normalize, map_eq_ok_iff, countsTo_set_iff]
    simp only [normalizeList_eq_ok_iff_forall₂ members, eq_comm]

/-- Literals are normalised to what they count to, one by one. -/
theorem normalizeList_eq_ok_iff_forall₂ (members : List Literal) {results : List Literal} :
    normalizeList members = .ok results ↔ List.Forall₂ CountsTo members results := by
  cases members with
  | nil => simp [normalizeList, eq_comm]
  | cons member rest =>
    simp only [normalizeList_cons_eq_ok_iff, normalize_eq_ok_iff_countsTo member,
      normalizeList_eq_ok_iff_forall₂ rest, List.forall₂_cons_left_iff]

end

/-- Normalising a literal succeeds exactly when all its scalars are instants, and then gives the
literal of the same form with the instants as integers.  Otherwise the fault has the text of the
first scalar that is no instant: the string itself, or the display text of a Boolean or a double. -/
theorem normalize_eq_ok_or_error_iff (literal : Literal) :
    ((∃ result, normalize literal = .ok result) ↔
        ∀ scalar ∈ literal.scalars, scalar.isInstant = true) ∧
      (∀ result, normalize literal = .ok result ↔ literal.CountsTo result) ∧
      ∀ fault, normalize literal = .error fault ↔
        ∃ before scalar after, literal.scalars = before ++ scalar :: after ∧
          (∀ earlier ∈ before, earlier.isInstant = true) ∧ scalar.isInstant = false ∧
          fault = .malformedTimestamp scalar.display := by
  refine ⟨?_, fun result => normalize_eq_ok_iff_countsTo literal, fun fault => ?_⟩
  · rw [← firstFault?_eq_none_iff]
    refine ⟨?_, exists_normalize_eq_ok literal⟩
    rintro ⟨result, hresult⟩
    rw [Option.eq_none_iff_forall_ne_some]
    intro scalar hscalar
    rw [normalize_eq_error literal hscalar] at hresult
    cases hresult
  · simp only [normalize_eq_error_iff, firstFault?_eq_some_iff]
    tauto

end Temporal

end PatternSql
