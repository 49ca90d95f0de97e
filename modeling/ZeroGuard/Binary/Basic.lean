import ZeroGuard.Power

namespace ZeroGuard

/-- A binary interchange format. Each binade holds `2 ^ fractionBits` numbers, there are `binades`
of them with the subnormal one, and the unit is `2 ^ -scale`. -/
structure Format where
  fractionBits : Nat
  binades : Nat
  scale : Nat
deriving DecidableEq, Repr

namespace Format

def double : Format := ⟨52, 2047, 1074⟩

def single : Format := ⟨23, 255, 149⟩

/-- How many non-negative finite numbers there are. -/
def size (f : Format) : Nat :=
  f.binades * twoPow f.fractionBits

/-- The number of units at a rank. It is defined beyond the last finite rank too, where it continues
as if there were further binades. -/
def units (f : Format) (rank : Nat) : Nat :=
  let binade := rank / twoPow f.fractionBits
  let fraction := rank % twoPow f.fractionBits
  if binade = 0 then fraction else (twoPow f.fractionBits + fraction) * twoPow (binade - 1)

/-- The rank whose number of units is nearest to `n / d`; of two equally near ones, the even one. -/
def nearestRank (f : Format) (n d : Nat) : Nat :=
  let shift := (n / d).log2 - f.fractionBits
  shift * twoPow f.fractionBits + roundDiv n (d * twoPow shift)

end Format

/-- A datum of a binary format. A NaN carries nothing: no operation here tells two of them apart. -/
inductive Binary (f : Format)
  | nan
  | infinite (negative : Bool)
  | finite (negative : Bool) (rank : Fin f.size)
deriving DecidableEq, Repr

abbrev Double := Binary Format.double

abbrev Single := Binary Format.single

namespace Binary

variable {f : Format}

/-- The number nearest to `n / d` units, an infinity if that is beyond the last finite rank. -/
def ofUnits (negative : Bool) (n d : Nat) : Binary f :=
  let rank := f.nearestRank n d
  if bounded : rank < f.size then .finite negative ⟨rank, bounded⟩ else .infinite negative

/-- The number nearest to the ratio `n / d`. -/
def ofRatio (negative : Bool) (n d : Nat) : Binary f :=
  ofUnits negative (n * twoPow f.scale) d

/-- The number nearest to an integer. -/
def ofInt (n : Int) : Binary f :=
  ofRatio (n < 0) n.natAbs 1

def zero (negative : Bool) : Binary f :=
  ofUnits negative 0 1

def isZero : Binary f → Bool
  | finite _ rank => rank.val == 0
  | _ => false

def isNaN : Binary f → Bool
  | nan => true
  | _ => false

def isFinite : Binary f → Bool
  | finite _ _ => true
  | _ => false

/-- The sign bit; a NaN counts as positive. -/
def isNegative : Binary f → Bool
  | nan => false
  | infinite negative => negative
  | finite negative _ => negative

/-- The signed number of units of a finite number. -/
def signedUnits (negative : Bool) (rank : Nat) : Int :=
  if negative then -(f.units rank : Int) else f.units rank

/-- The same number in another format, rounded to the nearest there. -/
def convert {g : Format} : Binary f → Binary g
  | nan => nan
  | infinite negative => infinite negative
  | finite negative rank => ofRatio negative (f.units rank) (twoPow f.scale)

end Binary

end ZeroGuard
