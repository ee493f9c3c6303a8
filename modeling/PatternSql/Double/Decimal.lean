import PatternSql.Double.Basic
import PatternSql.Text.Digits

/-!
# Shortest decimals

The decimal text of a finite double.  A double is written as the multiple of a
power of ten that reads back as it, for the greatest power that has such a
multiple: no decimal with fewer digits reads back.  On that grid only the two
neighbours of the double have to be tried, since a multiple that reads back leaves
no room for a neighbour between it and the double that does not.
-/

namespace PatternSql

/-- The number `coefficient · 10 ^ exponent`. -/
structure Decimal where
  coefficient : Nat
  exponent : Int
deriving DecidableEq

namespace Decimal

/-- Numerator of a decimal as a ratio of natural numbers. -/
def numerator (d : Decimal) : Nat :=
  d.coefficient * Nat.pow 10 d.exponent.toNat

/-- Denominator of a decimal as a ratio of natural numbers. -/
def denominator (d : Decimal) : Nat :=
  Nat.pow 10 (-d.exponent).toNat

/-- The rank of the double nearest to a decimal. -/
def rank (d : Decimal) : Nat :=
  Double.nearestRank d.numerator d.denominator

/-- The digits of the coefficient. -/
def digits (d : Decimal) : List Char :=
  Nat.toDigits 10 d.coefficient

/-- The number of digits before the decimal point, negative when zeros follow the point. -/
def point (d : Decimal) : Int :=
  d.digits.length + d.exponent

/-- Every digit in its place, without an exponent and without a point that no digit follows. -/
def positional (d : Decimal) : List Char :=
  if 0 ≤ d.exponent then d.digits ++ List.replicate d.exponent.toNat '0'
  else if 0 < d.point then
    d.digits.take d.point.toNat ++ '.' :: d.digits.drop d.point.toNat
  else '0' :: '.' :: (List.replicate (-d.point).toNat '0' ++ d.digits)

/-- One digit, the others after a point, and the power of ten after `e`. -/
def scientific (d : Decimal) : List Char :=
  let mantissa :=
    match d.digits with
    | [] => []
    | [digit] => [digit]
    | digit :: rest => digit :: '.' :: rest
  let power := d.point - 1
  let sign := if power < 0 then ['-'] else []
  mantissa ++ 'e' :: (sign ++ Nat.toDigits 10 power.natAbs)

open Text in
/-- With each digit in its place there is at most one point. -/
theorem isDecimal_positional (d : Decimal) : IsDecimal d.positional := by
  have hdigits : ∀ c ∈ d.digits, c.isDigit = true :=
    fun c hc => Nat.isDigit_of_mem_toDigits (by decide) (by decide) hc
  have hzeros : ∀ count, ∀ c ∈ List.replicate count '0', c.isDigit = true := by
    intro count c hc
    rw [List.eq_of_mem_replicate hc]
    rfl
  unfold positional
  split
  · exact isDecimal_of_isDigit (List.forall_mem_append.2 ⟨hdigits, hzeros _⟩)
  · split
    · exact isDecimal_append_point (fun c hc => hdigits c (List.mem_of_mem_take hc))
        fun c hc => hdigits c (List.mem_of_mem_drop hc)
    · have hzero : ∀ c ∈ ['0'], c.isDigit = true := by simp
      exact isDecimal_append_point hzero (List.forall_mem_append.2 ⟨hzeros _, hdigits⟩)

end Decimal

namespace Double

/-- The multiple of `10 ^ exponent` that reads back as the magnitude of `x`, if there is one: the
nearer neighbour when both do, and the upper one when they are equally near. -/
def onGrid? (x : Double) (exponent : Int) : Option Decimal :=
  let numerator := x.magnitude * Nat.pow 10 (-exponent).toNat
  let denominator := quantaInOne * Nat.pow 10 exponent.toNat
  let lower := numerator / denominator
  let neighbours :=
    if 2 * (numerator % denominator) < denominator then [lower, lower + 1] else [lower + 1, lower]
  (neighbours.map (Decimal.mk · exponent)).find? fun d => d.rank == x.rank

/-- The exponents of the grids to try, from the coarsest: every finite double is below `10 ^ 309`
and has a decimal of seventeen digits that reads back. -/
def gridExponents : List Int :=
  (List.range 660).map fun (n : Nat) => (308 : Int) - n

/-- The decimal with the fewest digits that reads back as the magnitude of a double. -/
def shortest (x : Double) : Decimal :=
  if x.isZero then ⟨0, 0⟩
  else (gridExponents.findSome? x.onGrid?).getD ⟨0, 0⟩

/-- A minus sign where the sign is negative, for zero as well. -/
def signText (x : Double) : List Char :=
  if x.negative then ['-'] else []

/-- The text of a double: shortest digits, each in its place. -/
def text (x : Double) : List Char :=
  x.signText ++ x.shortest.positional

end Double

end PatternSql
