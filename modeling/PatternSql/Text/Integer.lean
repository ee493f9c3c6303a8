/-!
# Integers as text

The decimal text of an integer: its digits without leading zeros, after a minus
sign when it is negative.
-/

namespace PatternSql

namespace Text

/-- The characters of an integer. -/
def intChars (value : Int) : List Char :=
  (if value < 0 then ['-'] else []) ++ Nat.toDigits 10 value.natAbs

/-- The text of an integer. -/
def ofInt (value : Int) : String :=
  String.ofList (intChars value)

/-- The characters of the text of an integer. -/
@[simp] theorem toList_ofInt (value : Int) : (ofInt value).toList = intChars value := by
  simp [ofInt]

/-- Only digits and a minus sign stand in the text of an integer. -/
theorem eq_or_isDigit_of_mem_intChars {value : Int} {c : Char} (h : c ∈ intChars value) :
    c = '-' ∨ c.isDigit = true := by
  rw [intChars, List.mem_append] at h
  rcases h with h | h
  · split at h
    · exact Or.inl (by simpa using h)
    · simp at h
  · exact Or.inr (Nat.isDigit_of_mem_toDigits (by decide) (by decide) h)

end Text

end PatternSql
