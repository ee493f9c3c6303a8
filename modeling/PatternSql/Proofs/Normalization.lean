import PatternSql.Proofs.Nodes
import Mathlib.Data.List.Forall2

/-!
# Normalising literals

When a literal can be normalised to milliseconds, and what is reported when it cannot.

Only the scalars of a literal matter, that is its members that are no sets, at any depth.
`Literal.scalars` lists them from left to right, and the first of them that is no instant
decides: it is the one that the fault names.  What a literal is normalised to has integers
for all its scalars, each of them what the scalar in its place is normalised to.
-/

namespace PatternSql

namespace Literal

mutual

/-- The members of a literal that are no sets, at any depth, from left to right. -/
def scalars : Literal → List Literal
  | .boolean value => [.boolean value]
  | .integer value => [.integer value]
  | .float value => [.float value]
  | .string value => [.string value]
  | .set members => scalarsList members

/-- The scalars of literals, one literal after the other. -/
def scalarsList : List Literal → List Literal
  | [] => []
  | member :: rest => member.scalars ++ scalarsList rest

end

mutual

/-- A scalar of a literal is its own only scalar. -/
theorem scalars_of_mem_scalars (literal : Literal) {member : Literal}
    (h : member ∈ literal.scalars) : member.scalars = [member] := by
  cases literal with
  | set members => exact scalars_of_mem_scalarsList members h
  | _ =>
    obtain rfl := List.mem_singleton.1 h
    rfl

/-- A scalar of literals is its own only scalar. -/
theorem scalars_of_mem_scalarsList (members : List Literal) {member : Literal}
    (h : member ∈ scalarsList members) : member.scalars = [member] := by
  cases members with
  | nil => simp [scalarsList] at h
  | cons first rest =>
    rw [scalarsList, List.mem_append] at h
    rcases h with hfirst | hrest
    · exact scalars_of_mem_scalars first hfirst
    · exact scalars_of_mem_scalarsList rest hrest

end

/-- Whether a scalar denotes an instant: an integer does, and a string when it is a timestamp. -/
def isInstant : Literal → Bool
  | .integer _ => true
  | .string text => (Timestamp.millis? text).isSome
  | _ => false

/-- A literal as it is after normalisation: all its scalars are integers. -/
def IsNormal (literal : Literal) : Prop :=
  ∀ member ∈ literal.scalars, ∃ value, member = .integer value

/-- The scalars of a literal are among those of a list that has the literal. -/
lemma scalars_subset_scalarsList {members : List Literal} {literal : Literal}
    (h : literal ∈ members) : literal.scalars ⊆ scalarsList members := by
  induction members with
  | nil => simp at h
  | cons first rest ih =>
    rw [scalarsList]
    rcases List.mem_cons.1 h with rfl | hrest
    · exact List.subset_append_left _ _
    · exact List.Subset.trans (ih hrest) (List.subset_append_right _ _)

/-- The members of a normalised set are normalised. -/
lemma IsNormal.of_mem {members : List Literal} (h : (Literal.set members).IsNormal)
    {literal : Literal} (hmem : literal ∈ members) : literal.IsNormal :=
  fun member hmember => h member (scalars_subset_scalarsList hmem hmember)

/-- The first scalar that denotes no instant. -/
def firstFault? (literal : Literal) : Option Literal :=
  literal.scalars.find? fun member => !member.isInstant

end Literal

namespace Temporal

open Literal

/-- A timestamp has milliseconds. -/
lemma millis_eq_ok_iff {text : String} {value : Int} :
    millis text = .ok value ↔ Timestamp.millis? text = some value := by
  unfold millis
  cases Timestamp.millis? text <;> simp

/-- A text is a timestamp, or it is named as a malformed one. -/
lemma millis_eq_error_iff {text : String} {fault : Fault} :
    millis text = .error fault ↔
      Timestamp.millis? text = none ∧ fault = .malformedTimestamp text := by
  unfold millis
  cases Timestamp.millis? text <;> simp [eq_comm]

mutual

/-- A literal whose scalars all denote instants can be normalised. -/
theorem exists_normalize_eq_ok (literal : Literal) (h : literal.firstFault? = none) :
    ∃ result, normalize literal = .ok result := by
  cases literal with
  | boolean value => simp [firstFault?, scalars, isInstant] at h
  | integer value => exact ⟨_, rfl⟩
  | float value => simp [firstFault?, scalars, isInstant] at h
  | string text =>
    cases hmillis : Timestamp.millis? text with
    | none => simp [firstFault?, scalars, isInstant, hmillis] at h
    | some value =>
      refine ⟨.integer (Int64.ofInt value), ?_⟩
      simp [normalize, millis, hmillis, Except.map]
  | set members =>
    obtain ⟨results, hresults⟩ := exists_normalizeList_eq_ok members h
    exact ⟨.set results, by simp [normalize, hresults, Except.map]⟩

/-- Literals whose scalars all denote instants can be normalised one after the other. -/
theorem exists_normalizeList_eq_ok (members : List Literal)
    (h : (scalarsList members).find? (fun member => !member.isInstant) = none) :
    ∃ results, normalizeList members = .ok results := by
  cases members with
  | nil => exact ⟨[], rfl⟩
  | cons member rest =>
    rw [scalarsList, List.find?_append, Option.or_eq_none_iff] at h
    obtain ⟨first, hfirst⟩ := exists_normalize_eq_ok member h.1
    obtain ⟨others, hothers⟩ := exists_normalizeList_eq_ok rest h.2
    exact ⟨first :: others, by simp [normalizeList, hfirst, hothers, Except.map]⟩

end

mutual

/-- A literal with a scalar that denotes no instant is refused, for the first such scalar. -/
theorem normalize_eq_error (literal : Literal) {scalar : Literal}
    (h : literal.firstFault? = some scalar) :
    normalize literal = .error (.malformedTimestamp scalar.display) := by
  cases literal with
  | boolean value =>
    obtain rfl : Literal.boolean value = scalar := by
      simpa [firstFault?, scalars, isInstant] using h
    rfl
  | integer value => simp [firstFault?, scalars, isInstant] at h
  | float value =>
    obtain rfl : Literal.float value = scalar := by
      simpa [firstFault?, scalars, isInstant] using h
    rfl
  | string text =>
    cases hmillis : Timestamp.millis? text with
    | none =>
      obtain rfl : Literal.string text = scalar := by
        simpa [firstFault?, scalars, isInstant, hmillis] using h
      simp [normalize, millis, hmillis, Except.map, display]
    | some value => simp [firstFault?, scalars, isInstant, hmillis] at h
  | set members =>
    simp [normalize, normalizeList_eq_error members h, Except.map]

/-- Literals with a scalar that denotes no instant are refused, for the first such scalar. -/
theorem normalizeList_eq_error (members : List Literal) {scalar : Literal}
    (h : (scalarsList members).find? (fun member => !member.isInstant) = some scalar) :
    normalizeList members = .error (.malformedTimestamp scalar.display) := by
  cases members with
  | nil => simp [scalarsList] at h
  | cons member rest =>
    rw [scalarsList, List.find?_append, Option.or_eq_some_iff] at h
    rcases h with hfirst | ⟨hnone, hrest⟩
    · simp [normalizeList, normalize_eq_error member hfirst]
    · obtain ⟨first, hfirst⟩ := exists_normalize_eq_ok member hnone
      simp [normalizeList, hfirst, normalizeList_eq_error rest hrest, Except.map]

end

mutual

/-- What a literal is normalised to has integers for its scalars. -/
theorem isNormal_of_normalize (literal : Literal) {result : Literal}
    (h : normalize literal = .ok result) : result.IsNormal := by
  cases literal with
  | boolean value => simp [normalize] at h
  | integer value =>
    obtain rfl : Literal.integer value = result := by simpa [normalize] using h
    simp [IsNormal, scalars]
  | float value => simp [normalize] at h
  | string text =>
    rw [normalize, map_eq_ok_iff] at h
    obtain ⟨value, _, rfl⟩ := h
    simp [IsNormal, scalars]
  | set members =>
    rw [normalize, map_eq_ok_iff] at h
    obtain ⟨results, hresults, rfl⟩ := h
    exact isNormal_of_normalizeList members hresults

/-- What literals are normalised to has integers for its scalars. -/
theorem isNormal_of_normalizeList (members : List Literal) {results : List Literal}
    (h : normalizeList members = .ok results) :
    ∀ member ∈ scalarsList results, ∃ value, member = .integer value := by
  cases members with
  | nil =>
    obtain rfl : [] = results := by simpa [normalizeList] using h
    simp [scalarsList]
  | cons member rest =>
    cases hfirst : normalize member with
    | error fault => simp [normalizeList, hfirst] at h
    | ok first =>
      rw [normalizeList, hfirst, map_eq_ok_iff] at h
      obtain ⟨others, hothers, rfl⟩ := h
      rw [scalarsList, List.forall_mem_append]
      exact ⟨isNormal_of_normalize member hfirst, isNormal_of_normalizeList rest hothers⟩

end

mutual

/-- A literal is normalised scalar by scalar. -/
theorem forall₂_scalars_of_normalize (literal : Literal) {result : Literal}
    (h : normalize literal = .ok result) :
    List.Forall₂ (fun scalar counted => normalize scalar = .ok counted)
      literal.scalars result.scalars := by
  cases literal with
  | boolean value => simp [normalize] at h
  | integer value =>
    obtain rfl : Literal.integer value = result := by simpa [normalize] using h
    exact .cons h .nil
  | float value => simp [normalize] at h
  | string text =>
    obtain ⟨value, _, rfl⟩ := map_eq_ok_iff.1 h
    exact .cons h .nil
  | set members =>
    obtain ⟨results, hresults, rfl⟩ := map_eq_ok_iff.1 h
    exact forall₂_scalarsList_of_normalizeList members hresults

/-- Literals are normalised scalar by scalar. -/
theorem forall₂_scalarsList_of_normalizeList (members : List Literal) {results : List Literal}
    (h : normalizeList members = .ok results) :
    List.Forall₂ (fun scalar counted => normalize scalar = .ok counted)
      (scalarsList members) (scalarsList results) := by
  cases members with
  | nil =>
    obtain rfl : [] = results := by simpa [normalizeList] using h
    exact .nil
  | cons member rest =>
    cases hfirst : normalize member with
    | error fault => simp [normalizeList, hfirst] at h
    | ok first =>
      rw [normalizeList, hfirst] at h
      obtain ⟨others, hothers, rfl⟩ := map_eq_ok_iff.1 h
      exact List.rel_append (forall₂_scalars_of_normalize member hfirst)
        (forall₂_scalarsList_of_normalizeList rest hothers)

end

/-- A literal is refused exactly for its first scalar that denotes no instant. -/
theorem normalize_eq_error_iff {literal : Literal} {fault : Fault} :
    normalize literal = .error fault ↔
      ∃ scalar, literal.firstFault? = some scalar ∧
        fault = .malformedTimestamp scalar.display := by
  constructor
  · intro h
    cases hfirst : literal.firstFault? with
    | none =>
      obtain ⟨result, hresult⟩ := exists_normalize_eq_ok literal hfirst
      rw [hresult] at h
      simp at h
    | some scalar =>
      rw [normalize_eq_error literal hfirst, Except.error.injEq] at h
      exact ⟨scalar, rfl, h.symm⟩
  · rintro ⟨scalar, hfirst, rfl⟩
    exact normalize_eq_error literal hfirst

/-- The scalar for which a literal is refused is refused itself. -/
lemma normalize_firstFault {literal scalar : Literal} (h : literal.firstFault? = some scalar) :
    normalize scalar = .error (.malformedTimestamp scalar.display) := by
  have hscalars := scalars_of_mem_scalars literal (List.mem_of_find?_eq_some h)
  have hinstant := List.find?_some h
  refine normalize_eq_error scalar ?_
  simp [firstFault?, hscalars, hinstant]

/-- A literal compared with a field is refused only for a field that holds times. -/
lemma literalFor_eq_error_iff {name : String} {value : Literal} {fault : Fault} :
    literalFor name value = .error fault ↔
      isTemporal name = true ∧ normalize value = .error fault := by
  unfold literalFor
  cases isTemporal name <;> simp

end Temporal

end PatternSql
