/-!
# Finite doubles

The finite double-precision numbers, with exact arithmetic on natural numbers.
Infinities and what is not a number are left out: no text of JSON denotes one, and so no
literal of a pattern is one.

Every finite double is a whole multiple of the smallest positive one, the quantum
`2⁻¹⁰⁷⁴`.  The nonnegative ones are numbered in increasing order from zero: the
number of a double in this order is its rank.  Ranks below `2⁵²` are their own
multiple; from there on each run of `2⁵²` ranks doubles the step of the run
before it.

Rounding finds the rank whose multiple lies nearest to a given ratio, a tie going
to the even rank.  The carry into the next run needs no case of its own, since the
ranks of two neighbouring runs follow each other.
-/

namespace PatternSql

namespace Double

/-- The number of ranks in a run of equal steps. -/
def runLength : Nat := Nat.pow 2 52

/-- The number of nonnegative finite doubles. -/
def rankCount : Nat := 2047 * runLength

/-- The number of quanta in one. -/
def quantaInOne : Nat := Nat.pow 2 1074

end Double

/-- A finite double: its sign and the rank of its magnitude.  Zero has two signs. -/
structure Double where
  /-- Whether the sign is negative. -/
  negative : Bool
  /-- The place of the magnitude among the nonnegative doubles. -/
  rank : Nat
  rank_lt : rank < Double.rankCount
deriving DecidableEq

namespace Double

/-- The magnitude of a rank, in quanta. -/
def quanta (rank : Nat) : Nat :=
  if rank < runLength then rank
  else (runLength + rank % runLength) * Nat.pow 2 (rank / runLength - 1)

/-- The greatest rank whose magnitude is at most `amount` quanta. -/
def rankBelow (amount : Nat) : Nat :=
  if amount < 2 * runLength then amount
  else
    let shift := amount.log2 - 52
    shift * runLength + amount >>> shift

/-- The rank nearest to `numerator / denominator`, a tie going to the even rank.  A result of
`rankCount` or more is beyond the finite doubles. -/
def nearestRank (numerator denominator : Nat) : Nat :=
  let scaled := numerator * quantaInOne
  let lower := rankBelow (scaled / denominator)
  let middle := (quanta lower + quanta (lower + 1)) * denominator
  if 2 * scaled < middle then lower
  else if middle < 2 * scaled then lower + 1
  else if lower % 2 = 0 then lower else lower + 1

/-- The double of a sign and a rank, unless the rank is too great. -/
def ofRank? (negative : Bool) (rank : Nat) : Option Double :=
  if h : rank < rankCount then some ⟨negative, rank, h⟩ else none

/-- The nonnegative double nearest to a ratio. -/
def ofRatio? (numerator denominator : Nat) : Option Double :=
  ofRank? false (nearestRank numerator denominator)

/-- Zero with a positive sign. -/
def zero : Double where
  negative := false
  rank := 0
  rank_lt := by decide

/-- Whether a double is zero, of either sign. -/
def isZero (x : Double) : Bool :=
  x.rank = 0

/-- The magnitude of a double, in quanta. -/
def magnitude (x : Double) : Nat :=
  quanta x.rank

/-- The same magnitude under a given sign. -/
def withSign (x : Double) (negative : Bool) : Double :=
  { x with negative }

/-- The product of two magnitudes, rounded to nearest; `none` beyond the finite doubles. -/
def mul? (x y : Double) : Option Double :=
  ofRatio? (x.magnitude * y.magnitude) (quantaInOne * quantaInOne)

/-- The quotient of two magnitudes, rounded to nearest; `none` beyond the finite doubles. -/
def div? (x y : Double) : Option Double :=
  ofRatio? x.magnitude y.magnitude

/-- The double nearest to an integer, when it is finite. -/
def ofInt? (value : Int) : Option Double :=
  (ofRatio? value.natAbs 1).map (·.withSign (value < 0))

end Double

end PatternSql
