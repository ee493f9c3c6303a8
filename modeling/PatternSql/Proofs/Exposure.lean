import PatternSql.Proofs.Containment

/-!
# Exposed strings

What the strings of a literal can do to the operand that the literal becomes.

A string that is an operand by itself is escaped, and so is one that is a member of the set that
membership is tested in.  Any other set is displayed, and with it the strings in it, at any
depth: these are exposed, and stand in the operand as they are
(`Literal.isInfix_operand_of_mem_exposed`).

Nothing else can break an operand open: where the exposed strings leave a scan as it was, inside
quotations for the comparators that quote their operand and outside for the others, the operand
is contained.  A quote in an exposed string is enough to break it, whatever the comparator.
-/

namespace PatternSql

open Scan

namespace Text

/-- A text stands in the text that it is joined to others in. -/
lemma isInfix_join {separator text : String} {texts : List String} (h : text ∈ texts) :
    text.toList <:+: (join separator texts).toList := by
  induction texts with
  | nil => simp at h
  | cons first rest ih =>
    cases rest with
    | nil =>
      obtain rfl := List.mem_singleton.1 h
      exact List.infix_refl _
    | cons second rest =>
      rw [join_cons_cons, String.toList_append, String.toList_append]
      rcases List.mem_cons.1 h with rfl | hrest
      · rw [List.append_assoc]
        exact (List.prefix_append _ _).isInfix
      · exact (ih hrest).trans (List.suffix_append _ _).isInfix

end Text

namespace Literal

mutual

/-- The display text of a scalar stands in the display text of a literal that has it. -/
theorem isInfix_display (literal : Literal) {scalar : Literal} (h : scalar ∈ literal.scalars) :
    scalar.display.toList <:+: literal.display.toList := by
  cases literal with
  | set members =>
    rw [display, String.toList_append, String.toList_append]
    exact (isInfix_displayList members h).trans (List.infix_append _ _ _)
  | _ =>
    obtain rfl := List.mem_singleton.1 h
    exact List.infix_refl _

/-- The display text of a scalar stands in the display texts of literals that have it. -/
theorem isInfix_displayList (members : List Literal) {scalar : Literal}
    (h : scalar ∈ scalarsList members) :
    scalar.display.toList <:+: (displayList members).toList := by
  cases members with
  | nil => simp [scalarsList] at h
  | cons first rest =>
    rw [scalarsList, List.mem_append] at h
    cases rest with
    | nil => exact isInfix_display first (h.resolve_right (by simp [scalarsList]))
    | cons second rest =>
      rw [displayList, String.toList_append, String.toList_append]
      · rcases h with hfirst | hrest
        · rw [List.append_assoc]
          exact (isInfix_display first hfirst).trans (List.prefix_append _ _).isInfix
        · exact (isInfix_displayList (second :: rest) hrest).trans (List.suffix_append _ _).isInfix
      · simp

end

/-- A string in a set stands in the characters of the set as it is. -/
lemma isInfix_escapedChars_of_mem_enclosed {literal : Literal} {text : String}
    (h : .string text ∈ literal.enclosed) : text.toList <:+: Operand.escapedChars literal := by
  cases literal with
  | set members => exact isInfix_display (.set members) h
  | _ => simp [enclosed] at h

/-- The characters of a set stand in its operand, unless membership is tested in it. -/
lemma isInfix_operand_set {comparator : Comparator} (hcomparator : comparator ≠ .isIn)
    (members : List Literal) :
    Operand.escapedChars (.set members) <:+: (comparator.operand (.set members)).toList := by
  have hescaped : (Operand.escaped (.set members)).toList =
      Operand.escapedChars (.set members) := by
    rw [Operand.escaped, String.toList_ofList]
  have hquoted (text : String) : text.toList <:+: (Operand.quoted text).toList := by
    rw [Operand.quoted, String.toList_append, String.toList_append]
    exact List.infix_append _ _ _
  rw [← hescaped]
  cases comparator with
  | equal => exact hquoted _
  | notEqual => exact hquoted _
  | like =>
    refine List.IsInfix.trans ?_ (hquoted _)
    rw [String.toList_append, String.toList_append]
    exact List.infix_append _ _ _
  | matching =>
    refine List.IsInfix.trans ?_ (hquoted _)
    rw [String.toList_ofList, openEnd_openStart_set, hescaped]
    exact List.infix_append _ _ _
  | isIn => exact absurd rfl hcomparator
  | _ => exact List.infix_refl _

/-- The characters of a member stand in the operand of membership. -/
lemma isInfix_operand_isIn {member : Literal} {members : List Literal} (h : member ∈ members) :
    Operand.escapedChars member <:+: (Comparator.isIn.operand (.set members)).toList := by
  have hjoin : (Operand.escaped member).toList <:+:
      (Text.join " OR " (Operand.alternatives (.set members))).toList :=
    Text.isInfix_join (List.mem_map_of_mem h)
  rw [Operand.escaped, String.toList_ofList] at hjoin
  rw [Comparator.operand, String.toList_append, String.toList_append]
  exact hjoin.trans (List.infix_append _ _ _)

/-- An exposed string stands in the operand as it is. -/
theorem isInfix_operand_of_mem_exposed {comparator : Comparator} {literal : Literal}
    {text : String} (h : .string text ∈ comparator.exposed literal) :
    text.toList <:+: (comparator.operand literal).toList := by
  have henclosed := exposed_subset_enclosed comparator literal h
  cases literal with
  | set members =>
    by_cases hcomparator : comparator = .isIn
    · subst hcomparator
      obtain ⟨member, hmember, hmem⟩ := List.mem_flatMap.1 h
      exact (isInfix_escapedChars_of_mem_enclosed hmem).trans (isInfix_operand_isIn hmember)
    · exact (isInfix_escapedChars_of_mem_enclosed henclosed).trans
        (isInfix_operand_set hcomparator members)
  | _ => simp [enclosed] at henclosed

/-- An operand is contained when the exposed strings of its literal leave a scan as it was.  The
exposed strings are shown as they are; a string among the members that membership is tested in
is shown as if it stood alone. -/
theorem operand_isContained_of_exposed (comparator : Comparator) (literal : Literal) :
    ((∀ text, .string text ∈ comparator.exposed literal → Steady comparator.quotes text.toList) →
        Text.IsContained (comparator.operand literal)) ∧
      (∀ text, .string text ∈ comparator.exposed literal →
        text.toList <:+: (comparator.operand literal).toList) ∧
      ∀ members text, .string text ∈ members →
        (Operand.escaped (.string text)).toList <:+:
          (Comparator.isIn.operand (.set members)).toList := by
  refine ⟨?_, fun text hmem => isInfix_operand_of_mem_exposed hmem, ?_⟩
  · intro hexposed
    exact closed_operand_of_exposed hexposed 0
  · intro members text hmem
    rw [Operand.escaped, String.toList_ofList]
    exact isInfix_operand_isIn hmem

/-- A set within a set, and a parenthesis that stands between quotes. -/
theorem operand_isContained_of_exposed_parenthesis :
    Text.IsContained (Comparator.like.operand (.set [.string "a)", .set [.string "b"]])) ∧
      "a)".toList <:+: "'%(a), (b))%'".toList ∧ "a\\)".toList <:+: "(a\\) OR (b))".toList := by
  obtain ⟨hcontained, hshown, hescaped⟩ :=
    operand_isContained_of_exposed .like (.set [.string "a)", .set [.string "b"]])
  have hexposed : Comparator.like.exposed (.set [.string "a)", .set [.string "b"]]) =
      [.string "a)", .string "b"] := rfl
  refine ⟨hcontained ?_, hshown "a)" (by simp [hexposed]), ?_⟩
  · intro text htext
    rw [hexposed] at htext
    simp only [List.mem_cons, string.injEq, List.not_mem_nil, or_false] at htext
    rcases htext with rfl | rfl
    · exact fun depth => rfl
    · exact fun depth => rfl
  · exact hescaped [.string "a)", .set [.string "b"]] "a)" List.mem_cons_self

/-- A quote in a set is not escaped, and in a set within a set it breaks the operand of every
comparator open. -/
theorem not_isContained_of_exposed_quote :
    Comparator.greaterThan.operand (.set [.string "'"]) = "(')" ∧
      ¬Text.IsContained (Comparator.greaterThan.operand (.set [.string "'"])) ∧
      ¬∃ comparator : Comparator,
        Text.IsContained (comparator.operand (.set [.set [.string "'"]])) := by
  refine ⟨by decide +kernel, by decide +kernel, ?_⟩
  rintro ⟨comparator, hcontained⟩
  have hbroken : ∀ comparator ∈ Comparator.all,
      ¬Text.IsContained (comparator.operand (.set [.set [.string "'"]])) := by
    decide +kernel
  exact hbroken comparator comparator.mem_all hcontained

end Literal

end PatternSql
