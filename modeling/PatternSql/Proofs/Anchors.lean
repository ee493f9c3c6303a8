import PatternSql.Proofs.Quotation

/-!
# Anchors of regular expressions

The operand of a match is made in two steps.  The regular expression is escaped first; then an
anchor at either end comes off, or a wildcard is put there.

`Anchored.ofText` takes the anchors off the regular expression itself.  The order of the steps makes
no difference (`openStart_escapeChars`, `openEnd_escapeChars`): escaping keeps the last character of
a text and puts at most a backslash before the first one, and the anchors need no backslash.  So an
anchor stands at an end of the escaped text exactly when it stands there in the text, and what comes
off is never part of an escape.  Nor is it part of a wildcard, since a wildcard does not end like an
anchor (`openEnd_wildcard_append`).
-/

namespace PatternSql

namespace Operand

/-! ### The ends of an escaped text -/

/-- An escaped text begins with an anchor exactly when the text does. -/
lemma head?_escapeChars_eq_caret_iff {cs : List Char} :
    (escapeChars cs).head? = some '^' ↔ cs.head? = some '^' := by
  cases cs with
  | nil => rfl
  | cons c rest =>
    cases hc : isSpecial c with
    | true =>
      have hcaret : c ≠ '^' := by
        rintro rfl
        simp [isSpecial] at hc
      simp [escapeChars_cons_of_isSpecial hc, hcaret]
    | false => simp [escapeChars_cons_of_not_isSpecial hc]

/-- An escaped text ends like the text. -/
lemma getLast?_escapeChars (cs : List Char) : (escapeChars cs).getLast? = cs.getLast? := by
  rcases List.eq_nil_or_concat cs with rfl | ⟨front, c, rfl⟩
  · rfl
  · cases hc : isSpecial c with
    | true => simp [escapeChars, hc]
    | false => simp [escapeChars, hc]

/-- A front without an anchor is opened by a wildcard. -/
lemma openStart_of_head?_ne {cs : List Char} (h : cs.head? ≠ some '^') :
    openStart cs = '.' :: '*' :: cs := by
  rw [openStart]
  rintro rest rfl
  exact h rfl

/-- An anchor at the end is taken away. -/
lemma openEnd_concat (cs : List Char) : openEnd (cs ++ ['$']) = cs := by
  rw [openEnd, if_pos List.getLast?_concat, List.dropLast_concat]

/-- An end without an anchor is opened by a wildcard. -/
lemma openEnd_of_getLast?_ne {cs : List Char} (h : cs.getLast? ≠ some '$') :
    openEnd cs = cs ++ ['.', '*'] := by
  rw [openEnd, if_neg h]

/-- The front of a text may be opened before it is escaped as well as after. -/
theorem openStart_escapeChars (cs : List Char) :
    openStart (escapeChars cs) = escapeChars (openStart cs) := by
  by_cases h : cs.head? = some '^'
  · obtain ⟨rest, rfl⟩ := List.head?_eq_some_iff.1 h
    rfl
  · rw [openStart_of_head?_ne h, openStart_of_head?_ne (mt head?_escapeChars_eq_caret_iff.1 h)]
    rfl

/-- The end of a text may be opened before it is escaped as well as after. -/
theorem openEnd_escapeChars (cs : List Char) :
    openEnd (escapeChars cs) = escapeChars (openEnd cs) := by
  by_cases h : cs.getLast? = some '$'
  · obtain ⟨front, rfl⟩ := List.getLast?_eq_some_iff.1 h
    rw [openEnd_concat, escapeChars_append]
    exact openEnd_concat (escapeChars front)
  · have hescaped : (escapeChars cs).getLast? ≠ some '$' := by rwa [getLast?_escapeChars]
    rw [openEnd_of_getLast?_ne h, openEnd_of_getLast?_ne hescaped, escapeChars_append]
    rfl

/-- A wildcard at the front has no part in what happens at the end. -/
lemma openEnd_wildcard_append (cs : List Char) :
    openEnd ('.' :: '*' :: cs) = '.' :: '*' :: openEnd cs := by
  by_cases h : cs.getLast? = some '$'
  · obtain ⟨front, rfl⟩ := List.getLast?_eq_some_iff.1 h
    rw [openEnd_concat]
    exact openEnd_concat ('.' :: '*' :: front)
  · have hwildcard : ('.' :: '*' :: cs).getLast? ≠ some '$' := by
      cases cs with
      | nil => decide
      | cons c rest => rwa [List.getLast?_cons_cons, List.getLast?_cons_cons]
    rw [openEnd_of_getLast?_ne h, openEnd_of_getLast?_ne hwildcard]
    rfl

/-! ### Regular expressions without their anchors -/

/-- What is left of a regular expression without its anchors, and which of them it had. -/
structure Anchored where
  atStart : Bool
  core : String
  atEnd : Bool

/-- Take one `^` off the front of a text, if it begins with one, and then one `$` off its end, if
what is left ends with one. -/
def Anchored.ofText (text : String) : Anchored :=
  let atStart := text.toList.head? = some '^'
  let rest := if atStart then text.toList.tail else text.toList
  let atEnd := rest.getLast? = some '$'
  { atStart, core := String.ofList (if atEnd then rest.dropLast else rest), atEnd }

/-- A wildcard, where there was no anchor. -/
def wildcardUnless (anchored : Bool) : String :=
  if anchored then "" else ".*"

/-- The text that a regular expression stands for: what is left of it, with a wildcard at each end
that had no anchor. -/
def Anchored.opened (regex : Anchored) : String :=
  wildcardUnless regex.atStart ++ regex.core ++ wildcardUnless regex.atEnd

/-- An opened end has lost its anchor, or got a wildcard. -/
lemma openEnd_eq_append (cs : List Char) :
    openEnd cs = (if cs.getLast? = some '$' then cs.dropLast else cs) ++
      (wildcardUnless (cs.getLast? = some '$')).toList := by
  by_cases h : cs.getLast? = some '$'
  · simp [openEnd, wildcardUnless, h]
  · simp [openEnd, wildcardUnless, h]

/-- Opening both ends of a regular expression leaves the text that it stands for. -/
theorem openEnd_openStart (text : String) :
    openEnd (openStart text.toList) = (Anchored.ofText text).opened.toList := by
  by_cases h : text.toList.head? = some '^'
  · obtain ⟨rest, hrest⟩ := List.head?_eq_some_iff.1 h
    rw [hrest]
    simp only [openStart, openEnd_eq_append rest]
    simp [Anchored.opened, Anchored.ofText, wildcardUnless, hrest]
  · rw [openStart_of_head?_ne h, openEnd_wildcard_append, openEnd_eq_append]
    simp [Anchored.opened, Anchored.ofText, wildcardUnless, h]

/-! ### Operands -/

/-- A match with a regular expression has the operand of an equality with the text that the
expression stands for. -/
theorem operand_matching_eq_operand_equal (value : String) :
    Comparator.matching.operand (.string value) =
      Comparator.equal.operand (.string (Anchored.ofText value).opened) := by
  rw [Comparator.operand, Comparator.operand, escaped, escapedChars, escapedChars,
    openStart_escapeChars, openEnd_escapeChars, openEnd_openStart]

/-- A wildcard has no character to escape. -/
lemma escapeChars_wildcardUnless (anchored : Bool) :
    escapeChars (wildcardUnless anchored).toList = (wildcardUnless anchored).toList := by
  cases anchored <;> rfl

/-- The operand of a match shows the regular expression without its anchors, escaped, with a
wildcard at each end that had none.  It is read as this text, up to its end, so no escape is broken
by what comes off. -/
theorem operand_matching_string (value following : String) :
    let regex := Anchored.ofText value
    Comparator.matching.operand (.string value) =
        quoted (wildcardUnless regex.atStart ++ escaped (.string regex.core) ++
          wildcardUnless regex.atEnd) ∧
      readQuoted? (Comparator.matching.operand (.string value) ++ following) =
        some (regex.opened, following) := by
  intro regex
  rw [operand_matching_eq_operand_equal]
  constructor
  · have hescaped : escaped (.string regex.opened) =
        wildcardUnless regex.atStart ++ escaped (.string regex.core) ++
          wildcardUnless regex.atEnd := by
      simp [← String.toList_inj, escaped, escapedChars, Anchored.opened, escapeChars_append,
        escapeChars_wildcardUnless]
    rw [Comparator.operand, hescaped]
  · have hequal : surround? .equal = some "" := rfl
    simpa using readQuoted?_operand hequal regex.opened following

/-- A regular expression that is nothing but anchors, and one that ends with a backslash before its
anchor. -/
example : Comparator.matching.operand (.string "^$") = "''" ∧
    Comparator.matching.operand (.string "a\\$") = "'.*a\\\\'" := by
  decide

end Operand

end PatternSql
