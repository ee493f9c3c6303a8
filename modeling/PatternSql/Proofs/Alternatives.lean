import PatternSql.Proofs.Quotation
import Mathlib.Data.List.Infix

/-!
# Reading alternatives

The members of a set of strings stand in its operand one after the other, with ` OR ` between
them and nothing around them.  Since neither the letters nor the blanks of this divider are
escaped, the operand shows the joined members and nothing else (`operand_isIn_eq_iff`): a member
that holds a divider looks like two.

`Operand.cut` takes joined members apart again, at each divider from left to right.  It finds the
members where they stand apart, that is where no divider stands in a member and none begins in a
member and ends in the divider behind it (`cut_intercalate`).  The latter happens to a member that
ends in ` OR`, as the blank of the divider behind it completes another one.  What is cut always
stands apart (`standApart_cut`), so that of all the sets with one operand exactly one does.
-/

namespace PatternSql

namespace Text

/-- The characters of joined texts. -/
lemma toList_join (separator : String) (texts : List String) :
    (join separator texts).toList = separator.toList.intercalate (texts.map String.toList) := by
  induction texts with
  | nil => rfl
  | cons first rest ih =>
    cases rest with
    | nil => simp
    | cons second rest =>
      rw [join_cons_cons, String.toList_append, String.toList_append, ih]
      simp [List.intercalate_cons_cons]

end Text

namespace Operand

/-! ### Members that stand apart -/

/-- The characters between two alternatives. -/
def divider : List Char :=
  [' ', 'O', 'R', ' ']

/-- Members that show where each of them ends: no divider stands in one, and none but the last ends
like a divider without its last blank. -/
def StandApart (members : List (List Char)) : Prop :=
  (∀ member ∈ members, ¬divider <:+: member) ∧
    ∀ member ∈ members.dropLast, ¬[' ', 'O', 'R'] <:+ member

/-- Whether members stand apart can be decided. -/
instance (members : List (List Char)) : Decidable (StandApart members) :=
  inferInstanceAs (Decidable (_ ∧ _))

/-- Members stand apart when the first one does from what follows it, and the others do. -/
lemma standApart_cons {member : List Char} {others : List (List Char)} :
    StandApart (member :: others) ↔
      ¬divider <:+: member ∧ (others ≠ [] → ¬[' ', 'O', 'R'] <:+ member) ∧ StandApart others := by
  cases others with
  | nil => simp [StandApart]
  | cons second others =>
    simp only [StandApart, List.dropLast_cons_cons, List.forall_mem_cons, ne_eq, reduceCtorEq,
      not_false_eq_true, forall_const]
    tauto

/-- With a divider behind it, a member that neither holds a divider nor ends like one does not begin
with one either. -/
lemma not_isPrefix_append_divider {c : Char} {cs : List Char} (hwhole : ¬divider <:+: c :: cs)
    (hend : ¬[' ', 'O', 'R'] <:+ c :: cs) (rest : List Char) :
    ¬divider <+: c :: (cs ++ (divider ++ rest)) := by
  intro hstarts
  rcases cs with _ | ⟨x, _ | ⟨y, _ | ⟨z, cs⟩⟩⟩
  · simp [divider] at hstarts
  · simp [divider] at hstarts
  · -- the blank that completes this divider is the first one of the divider behind the member
    obtain ⟨rfl, rfl, rfl⟩ : c = ' ' ∧ x = 'O' ∧ y = 'R' := by
      simpa [divider, eq_comm] using hstarts
    exact hend (List.suffix_refl _)
  · have hwithin : divider <+: c :: x :: y :: z :: cs := by
      simpa [divider] using hstarts
    exact hwhole hwithin.isInfix

/-! ### Cutting at the dividers -/

/-- The texts between the dividers, which are looked for from left to right. -/
def cut : List Char → List (List Char)
  | [] => [[]]
  | ' ' :: 'O' :: 'R' :: ' ' :: rest => [] :: cut rest
  | c :: rest => (cut rest).modifyHead (c :: ·)

/-- A divider in front is cut off, and leaves an empty member before it. -/
lemma cut_divider_append (rest : List Char) : cut (divider ++ rest) = [] :: cut rest := by
  rw [divider, List.cons_append, List.cons_append, List.cons_append, List.cons_append,
    List.nil_append, cut]

/-- A character that begins no divider belongs to the first member. -/
lemma cut_cons {c : Char} {rest : List Char} (h : ¬divider <+: c :: rest) :
    cut (c :: rest) = (cut rest).modifyHead (c :: ·) := by
  rw [cut]
  rintro tail rfl rfl
  exact h ⟨tail, rfl⟩

/-- What holds of the empty text, and goes from a text to the text with a divider or another
character in front, holds of every text. -/
theorem cut_induction {motive : List Char → Prop} (nil : motive [])
    (divided : ∀ rest, motive rest → motive (divider ++ rest))
    (cons : ∀ c rest, ¬divider <+: c :: rest → motive rest → motive (c :: rest))
    (cs : List Char) : motive cs := by
  induction cs using cut.induct with
  | case1 => exact nil
  | case2 rest ih => exact divided rest ih
  | case3 c rest hdivider ih =>
    apply cons c rest _ ih
    rintro ⟨tail, heq⟩
    obtain ⟨hc, hrest⟩ := List.cons.inj heq
    exact hdivider tail hc.symm hrest.symm

/-- Every text is cut into one member at least. -/
lemma cut_ne_nil (cs : List Char) : cut cs ≠ [] := by
  induction cs using cut_induction with
  | nil => simp [cut]
  | divided rest _ => simp [cut_divider_append]
  | cons c rest hc ih => simpa [cut_cons hc] using ih

/-- What is cut and joined again is the text. -/
theorem intercalate_cut (cs : List Char) : divider.intercalate (cut cs) = cs := by
  induction cs using cut_induction with
  | nil => simp [cut]
  | divided rest ih =>
    rw [cut_divider_append, List.intercalate_cons_of_ne_nil (cut_ne_nil rest), ih]
    rfl
  | cons c rest hc ih =>
    obtain ⟨part, others, hcut⟩ := List.exists_cons_of_ne_nil (cut_ne_nil rest)
    rw [hcut] at ih
    rw [cut_cons hc, hcut, List.modifyHead_cons]
    cases others with
    | nil => simpa using ih
    | cons second others =>
      rw [List.intercalate_cons_cons] at ih ⊢
      rw [List.cons_append, List.cons_append, ih]

/-- What is cut stands apart. -/
theorem standApart_cut (cs : List Char) : StandApart (cut cs) := by
  induction cs using cut_induction with
  | nil => decide
  | divided rest ih =>
    rw [cut_divider_append, standApart_cons]
    exact ⟨by decide, fun _ => by decide, ih⟩
  | cons c rest hc ih =>
    have hrest := intercalate_cut rest
    obtain ⟨part, others, hcut⟩ := List.exists_cons_of_ne_nil (cut_ne_nil rest)
    rw [hcut, standApart_cons] at ih
    rw [hcut] at hrest
    obtain ⟨hwhole, hend, hothers⟩ := ih
    rw [cut_cons hc, hcut, List.modifyHead_cons, standApart_cons]
    refine ⟨?_, ?_, hothers⟩
    · intro hdivider
      rcases List.infix_cons_iff.1 hdivider with hstarts | hwithin
      · have hpart : part <+: rest := by
          cases others with
          | nil => simp [← hrest]
          | cons second others => simp [← hrest, List.intercalate_cons_cons]
        exact hc (hstarts.trans (List.cons_prefix_cons.2 ⟨rfl, hpart⟩))
      · exact hwhole hwithin
    · -- a divider would begin at the character, and end in the blank of the next one
      intro hne hends
      rcases List.suffix_cons_iff.1 hends with hequal | hpart
      · obtain ⟨rfl, rfl⟩ := List.cons.inj hequal
        rw [List.intercalate_cons_of_ne_nil hne] at hrest
        apply hc
        rw [← hrest]
        exact ⟨_, rfl⟩
      · exact hend hne hpart

/-- A text without a divider is not cut. -/
lemma cut_of_not_isInfix {cs : List Char} (h : ¬divider <:+: cs) : cut cs = [cs] := by
  induction cs with
  | nil => rfl
  | cons c cs ih =>
    rw [List.infix_cons_iff, not_or] at h
    rw [cut_cons h.1, ih h.2, List.modifyHead_cons]

/-- A member is cut off at the divider behind it. -/
lemma cut_append_divider {cs : List Char} (hwhole : ¬divider <:+: cs)
    (hend : ¬[' ', 'O', 'R'] <:+ cs) (rest : List Char) :
    cut (cs ++ (divider ++ rest)) = cs :: cut rest := by
  induction cs with
  | nil => exact cut_divider_append rest
  | cons c cs ih =>
    have hstart := not_isPrefix_append_divider hwhole hend rest
    rw [List.infix_cons_iff, not_or] at hwhole
    rw [List.suffix_cons_iff, not_or] at hend
    rw [List.cons_append, cut_cons hstart, ih hwhole.2 hend.2, List.modifyHead_cons]

/-- Members that stand apart are found by the cut. -/
theorem cut_intercalate {members : List (List Char)} (hne : members ≠ [])
    (h : StandApart members) : cut (divider.intercalate members) = members := by
  induction members with
  | nil => exact absurd rfl hne
  | cons member others ih =>
    obtain ⟨hwhole, hend, hothers⟩ := standApart_cons.1 h
    cases others with
    | nil => rw [List.intercalate_singleton, cut_of_not_isInfix hwhole]
    | cons second others =>
      rw [List.intercalate_cons_cons, List.append_assoc,
        cut_append_divider hwhole (hend (by simp)), ih (by simp) hothers]

/-! ### Operands of membership -/

/-- Joined texts are escaped one by one, and so is what stands between them. -/
lemma escapeChars_intercalate (separator : List Char) (parts : List (List Char)) :
    escapeChars (separator.intercalate parts) =
      (escapeChars separator).intercalate (parts.map escapeChars) := by
  induction parts with
  | nil => rfl
  | cons part rest ih =>
    cases rest with
    | nil => simp
    | cons second rest =>
      rw [List.intercalate_cons_cons, escapeChars_append, escapeChars_append, ih]
      simp [List.intercalate_cons_cons]

/-- The operand of membership shows the joined members, escaped as a whole. -/
lemma toList_operand_isIn (members : List String) :
    (Comparator.isIn.operand (.set (members.map .string))).toList =
      '(' :: (escapeChars (divider.intercalate (members.map String.toList)) ++ [')']) := by
  have hdivider : escapeChars divider = " OR ".toList := by decide
  have hmembers : (alternatives (.set (members.map .string))).map String.toList =
      (members.map String.toList).map escapeChars := by
    simp [alternatives, Function.comp_def, escaped, escapedChars]
  rw [Comparator.operand, String.toList_append, String.toList_append, Text.toList_join, hmembers,
    escapeChars_intercalate, hdivider]
  rfl

/-- Sets of strings have the same operand when their members, joined, are the same text. -/
theorem operand_isIn_eq_iff {first second : List String} :
    Comparator.isIn.operand (.set (first.map .string)) =
        Comparator.isIn.operand (.set (second.map .string)) ↔
      divider.intercalate (first.map String.toList) =
        divider.intercalate (second.map String.toList) := by
  rw [← String.toList_inj, toList_operand_isIn, toList_operand_isIn, List.cons_inj_right,
    List.append_cancel_right_eq, escapeChars_injective.eq_iff]

/-- Two sets of strings with the same operand have the same members, provided that the members
stand apart in both; and each operand is that of a set whose members do. -/
theorem members_eq_of_operand_isIn_eq :
    (∀ first second : List String, first ≠ [] → second ≠ [] →
        StandApart (first.map String.toList) → StandApart (second.map String.toList) →
        Comparator.isIn.operand (.set (first.map .string)) =
          Comparator.isIn.operand (.set (second.map .string)) → first = second) ∧
      ∀ members : List String, ∃ apart : List String, apart ≠ [] ∧
        StandApart (apart.map String.toList) ∧
        Comparator.isIn.operand (.set (apart.map .string)) =
          Comparator.isIn.operand (.set (members.map .string)) := by
  constructor
  · intro first second hfirst hsecond hfirstApart hsecondApart hoperand
    have hcut := cut_intercalate (by simpa using hfirst) hfirstApart
    rw [operand_isIn_eq_iff.1 hoperand, cut_intercalate (by simpa using hsecond) hsecondApart]
      at hcut
    have hinjective : Function.Injective String.toList := fun _ _ => String.toList_inj.1
    exact (List.map_injective_iff.2 hinjective hcut).symm
  · intro members
    have hchars (parts : List (List Char)) :
        (parts.map String.ofList).map String.toList = parts := by
      simp [Function.comp_def]
    refine ⟨(cut (divider.intercalate (members.map String.toList))).map String.ofList, ?_, ?_, ?_⟩
    · simpa using cut_ne_nil _
    · rw [hchars]
      exact standApart_cut _
    · rw [operand_isIn_eq_iff, hchars, intercalate_cut]

/-- Members that begin or end like a divider are found again. -/
theorem members_eq_of_operand_isIn_eq_overlapping :
    ["OR a", "OR", "b OR"] = (cut "OR a OR OR OR b OR".toList).map String.ofList :=
  members_eq_of_operand_isIn_eq.1 _ _ (by decide) (by decide) (by decide +kernel)
    (by decide +kernel) (by decide +kernel)

/-- Members that hold a divider, or end like one, are taken for others. -/
theorem operand_isIn_eq_of_members_ne :
    (Comparator.isIn.operand (.set (["a OR b"].map .string)) =
        Comparator.isIn.operand (.set (["a", "b"].map .string)) ∧ ["a OR b"] ≠ ["a", "b"]) ∧
      Comparator.isIn.operand (.set (["a OR", "b"].map .string)) =
          Comparator.isIn.operand (.set (["a", "OR b"].map .string)) ∧
        ["a OR", "b"] ≠ ["a", "OR b"] := by
  decide +kernel

end Operand

end PatternSql
