import PatternSql.Predicate.Operand
import Mathlib.Data.List.Basic

/-!
# Reading quotations

A string operand of an equality or a likeness stands between quotes, with backslashes before its
special characters.  `Operand.readQuotation?` reads such a quotation from behind its opening
quote: it takes what stands behind a backslash as it is and stops at the first other quote.

What is read is the string, and what is left over is whatever followed the quotation
(`readQuotation?_escapeChars_append`).  The two special characters that the reader looks at are
the backslash and the quote, and escaping puts a backslash before both, so no string can end its
own quotation or keep it from ending.  Two quotations with texts behind them are therefore the
same only when the strings and the texts are (`escapeChars_append_inj`).
-/

namespace PatternSql

namespace Operand

/-! ### The reader -/

/-- Read a quotation from behind its opening quote: the string, and what follows the closing quote.
There is none where no quote closes it. -/
def readQuotation? : List Char → Option (List Char × List Char)
  | [] => none
  | '\x27' :: rest => some ([], rest)
  | ['\x5c'] => none
  | '\x5c' :: c :: rest => (readQuotation? rest).map fun read => (c :: read.1, read.2)
  | c :: rest => (readQuotation? rest).map fun read => (c :: read.1, read.2)

/-- Read the quotation that a text begins with. -/
def readQuoted? (text : String) : Option (String × String) :=
  match text.toList with
  | '\x27' :: rest =>
    (readQuotation? rest).map fun read => (String.ofList read.1, String.ofList read.2)
  | _ => none

/-- A quote ends the quotation. -/
lemma readQuotation?_quote (rest : List Char) :
    readQuotation? ('\x27' :: rest) = some ([], rest) := by
  rw [readQuotation?]

/-- A character behind a backslash belongs to the string, whatever it is. -/
lemma readQuotation?_escape (c : Char) (rest : List Char) :
    readQuotation? ('\x5c' :: c :: rest) =
      (readQuotation? rest).map fun read => (c :: read.1, read.2) := by
  rw [readQuotation?]

/-- A character that is not special belongs to the string. -/
lemma readQuotation?_of_not_isSpecial {c : Char} (h : isSpecial c = false) (rest : List Char) :
    readQuotation? (c :: rest) = (readQuotation? rest).map fun read => (c :: read.1, read.2) := by
  have hquote : c ≠ '\x27' := by
    rintro rfl
    simp [isSpecial] at h
  have hbackslash : c ≠ '\x5c' := by
    rintro rfl
    simp [isSpecial] at h
  rw [readQuotation?]
  · exact hquote
  · exact fun heq => absurd heq hbackslash
  · exact fun _ _ heq => absurd heq hbackslash

/-! ### Escaped strings -/

/-- A special character is escaped by a backslash in front of it. -/
lemma escapeChars_cons_of_isSpecial {c : Char} (h : isSpecial c = true) (cs : List Char) :
    escapeChars (c :: cs) = '\x5c' :: c :: escapeChars cs := by
  simp [escapeChars, h]

/-- Any other character stays as it is. -/
lemma escapeChars_cons_of_not_isSpecial {c : Char} (h : isSpecial c = false) (cs : List Char) :
    escapeChars (c :: cs) = c :: escapeChars cs := by
  simp [escapeChars, h]

/-- Two texts are escaped one after the other. -/
lemma escapeChars_append (cs rest : List Char) :
    escapeChars (cs ++ rest) = escapeChars cs ++ escapeChars rest := by
  simp [escapeChars]

/-- An escaped string is read as the string, up to the quote behind it. -/
theorem readQuotation?_escapeChars_append (cs rest : List Char) :
    readQuotation? (escapeChars cs ++ '\x27' :: rest) = some (cs, rest) := by
  induction cs with
  | nil => exact readQuotation?_quote rest
  | cons c cs ih =>
    cases hc : isSpecial c with
    | true =>
      rw [escapeChars_cons_of_isSpecial hc, List.cons_append, List.cons_append,
        readQuotation?_escape, ih, Option.map_some]
    | false =>
      rw [escapeChars_cons_of_not_isSpecial hc, List.cons_append,
        readQuotation?_of_not_isSpecial hc, ih, Option.map_some]

/-- Escaped strings with a quote and a text behind them are the same only when the strings and the
texts are. -/
theorem escapeChars_append_inj {cs cs' rest rest' : List Char}
    (h : escapeChars cs ++ '\x27' :: rest = escapeChars cs' ++ '\x27' :: rest') :
    cs = cs' ∧ rest = rest' := by
  have hread := readQuotation?_escapeChars_append cs rest
  rw [h, readQuotation?_escapeChars_append, Option.some.injEq, Prod.mk.injEq] at hread
  exact ⟨hread.1.symm, hread.2.symm⟩

/-- No two strings are escaped alike. -/
theorem escapeChars_injective : Function.Injective escapeChars := by
  intro cs cs' h
  have hquoted : escapeChars cs ++ '\x27' :: [] = escapeChars cs' ++ '\x27' :: [] := by rw [h]
  exact (escapeChars_append_inj hquoted).1

/-! ### Operands -/

/-- What stands on both sides of a string between the quotes of its operand, for the comparators
that quote the whole string. -/
def surround? : Comparator → Option String
  | .equal => some ""
  | .notEqual => some ""
  | .like => some "%"
  | _ => none

/-- A percent sign needs no backslash, so it is escaped together with the string. -/
lemma toList_operand_append {comparator : Comparator} {surround : String}
    (h : surround? comparator = some surround) (value following : String) :
    (comparator.operand (.string value) ++ following).toList =
      '\x27' :: (escapeChars (surround ++ value ++ surround).toList ++
        '\x27' :: following.toList) := by
  have hpercent : escapeChars ['%'] = ['%'] := rfl
  cases comparator with
  | equal | notEqual =>
    obtain rfl : "" = surround := by simpa [surround?] using h
    simp [Comparator.operand, quoted, escaped, escapedChars]
  | like =>
    obtain rfl : "%" = surround := by simpa [surround?] using h
    simp [Comparator.operand, quoted, escaped, escapedChars, escapeChars_append,
      escapeChars_cons_of_not_isSpecial, isSpecial, hpercent]
  | _ => simp [surround?] at h

/-- A quoted operand is read as what was quoted, up to its end. -/
lemma readQuoted?_operand {comparator : Comparator} {surround : String}
    (h : surround? comparator = some surround) (value following : String) :
    readQuoted? (comparator.operand (.string value) ++ following) =
      some (surround ++ value ++ surround, following) := by
  rw [readQuoted?, toList_operand_append h]
  simp only [readQuotation?_escapeChars_append, Option.map_some, String.ofList_toList]

/-- Quoted operands with texts behind them are the same only when the strings and the texts are. -/
lemma operand_append_inj {comparator : Comparator} {surround : String}
    (h : surround? comparator = some surround) {value other following after : String}
    (heq : comparator.operand (.string value) ++ following =
      comparator.operand (.string other) ++ after) : value = other ∧ following = after := by
  have hread := readQuoted?_operand h value following
  rw [heq, readQuoted?_operand h, Option.some.injEq, Prod.mk.injEq] at hread
  obtain ⟨hvalue, hfollowing⟩ := hread
  have hchars := congrArg String.toList hvalue
  simp only [String.toList_append, List.append_cancel_right_eq, List.append_cancel_left_eq]
    at hchars
  exact ⟨(String.toList_inj.1 hchars).symm, hfollowing.symm⟩

/-- The string of an equality or a likeness is read back from its operand, whatever follows the
operand; so two such operands are the same, with what follows them, only for the same strings. -/
theorem readQuoted?_operand_append (value following : String) :
    (readQuoted? (Comparator.equal.operand (.string value) ++ following) =
        some (value, following) ∧
      readQuoted? (Comparator.notEqual.operand (.string value) ++ following) =
        some (value, following) ∧
      readQuoted? (Comparator.like.operand (.string value) ++ following) =
        some ("%" ++ value ++ "%", following)) ∧
      ∀ comparator ∈ [Comparator.equal, .notEqual, .like], ∀ other after : String,
        comparator.operand (.string value) ++ following =
          comparator.operand (.string other) ++ after → value = other ∧ following = after := by
  have hequal : surround? .equal = some "" := rfl
  have hnotEqual : surround? .notEqual = some "" := rfl
  have hlike : surround? .like = some "%" := rfl
  refine ⟨⟨?_, ?_, readQuoted?_operand hlike value following⟩, ?_⟩
  · simpa using readQuoted?_operand hequal value following
  · simpa using readQuoted?_operand hnotEqual value following
  · intro comparator hcomparator other after heq
    simp only [List.mem_cons, List.not_mem_nil, or_false] at hcomparator
    rcases hcomparator with rfl | rfl | rfl
    · exact operand_append_inj hequal heq
    · exact operand_append_inj hnotEqual heq
    · exact operand_append_inj hlike heq

/-- A string that ends in a backslash and a quote, before a text that begins with a quote. -/
theorem readQuoted?_operand_append_trailingQuote :
    readQuoted? "'%\\\\\\'%'' OR" = some ("%\\'%", "' OR") ∧
      "\\'" = String.ofList ['\x5c', '\x27'] ∧ "' OR" = "'" ++ " OR" := by
  have htext : Comparator.like.operand (.string "\\'") ++ "' OR" = "'%\\\\\\'%'' OR" := by
    decide +kernel
  obtain ⟨⟨_, _, hread⟩, hinj⟩ := readQuoted?_operand_append "\\'" "' OR"
  rw [htext] at hread
  exact ⟨hread, hinj .like (by decide) _ _ rfl⟩

end Operand

end PatternSql
