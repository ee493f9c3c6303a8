/-!
# Runs of decimal digits
-/

namespace PatternSql

namespace Text

/-- The value of a decimal digit. -/
def digitValue (c : Char) : Nat :=
  c.toNat - 48

/-- The number that a run of decimal digits denotes. -/
def digitsValue (digits : List Char) : Nat :=
  digits.foldl (fun value c => 10 * value + digitValue c) 0

/-- No digits have the value zero. -/
@[simp] theorem digitsValue_nil : digitsValue [] = 0 := rfl

/-- A digit more at the end multiplies the value by ten and adds its own. -/
theorem digitsValue_append_singleton (digits : List Char) (c : Char) :
    digitsValue (digits ++ [c]) = 10 * digitsValue digits + digitValue c := by
  simp [digitsValue, List.foldl_append]

/-- Digits, with at most one point among them. -/
def IsDecimal (cs : List Char) : Prop :=
  (∀ c ∈ cs, c.isDigit = true ∨ c = '.') ∧ cs.count '.' ≤ 1

/-- There is no point among digits. -/
theorem count_point_of_isDigit {cs : List Char} (h : ∀ c ∈ cs, c.isDigit = true) :
    cs.count '.' = 0 := by
  rw [List.count_eq_zero]
  intro hmem
  exact absurd (h _ hmem) (by decide)

/-- Digits without a point. -/
theorem isDecimal_of_isDigit {cs : List Char} (h : ∀ c ∈ cs, c.isDigit = true) : IsDecimal cs :=
  ⟨fun c hc => .inl (h c hc), by simp [count_point_of_isDigit h]⟩

/-- Digits before and after a point. -/
theorem isDecimal_append_point {whole fraction : List Char}
    (hwhole : ∀ c ∈ whole, c.isDigit = true) (hfraction : ∀ c ∈ fraction, c.isDigit = true) :
    IsDecimal (whole ++ '.' :: fraction) := by
  constructor
  · intro c hc
    rcases List.mem_append.1 hc with hc | hc
    · exact .inl (hwhole c hc)
    · rcases List.mem_cons.1 hc with rfl | hc
      · exact .inr rfl
      · exact .inl (hfraction c hc)
  · simp [count_point_of_isDigit hwhole, count_point_of_isDigit hfraction]

end Text

end PatternSql
