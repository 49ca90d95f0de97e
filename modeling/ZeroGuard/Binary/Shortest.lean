import ZeroGuard.Binary.Basic

namespace ZeroGuard

namespace Format

/-- The exact value at a rank, as a multiple of `10 ^ -scale`. -/
def exactDecimal (f : Format) (rank : Nat) : Nat :=
  f.units rank * fivePow f.scale

/-- Whether the decimal `candidate * 10 ^ -scale` rounds to the number at a positive rank. A decimal
halfway between two numbers rounds to the one of even rank. -/
def roundsTo (f : Format) (rank candidate : Nat) : Bool :=
  let low := f.exactDecimal (rank - 1) + f.exactDecimal rank
  let high := f.exactDecimal rank + f.exactDecimal (rank + 1)
  if rank % 2 = 0 then low ≤ 2 * candidate ∧ 2 * candidate ≤ high
  else low < 2 * candidate ∧ 2 * candidate < high

end Format

/-- The decimal `coefficient * 10 ^ exponent`. -/
structure ShortDecimal where
  coefficient : Nat
  exponent : Int
deriving DecidableEq, Repr

namespace Format

/-- Searches the grids of `10 ^ power`, `10 ^ (power - 1)` and so on for the first that has a
decimal which rounds to the rank. On each grid only the two neighbours of the value count. The
result is that multiple and its power of ten. -/
def searchGrids (f : Format) (rank : Nat) : Nat → Nat × Nat
  | 0 => (f.exactDecimal rank, 0)
  | power + 1 =>
    let grid := tenPow (power + 1)
    let value := f.exactDecimal rank
    let below := value / grid
    let above := below + 1
    match f.roundsTo rank (below * grid), f.roundsTo rank (above * grid) with
    | true, true => (roundDiv value grid, power + 1)
    | true, false => (below, power + 1)
    | false, true => (above, power + 1)
    | false, false => f.searchGrids rank power

/-- The shortest decimal of the number at a rank. -/
def shortest (f : Format) (rank : Nat) : ShortDecimal :=
  if rank = 0 then ⟨0, 0⟩
  else
    let found := f.searchGrids rank (digitCount (f.exactDecimal rank))
    ⟨found.1, (found.2 : Int) - f.scale⟩

end Format

end ZeroGuard
