namespace ZeroGuard

def twoPow (n : Nat) : Nat :=
  Nat.pow 2 n

def fivePow (n : Nat) : Nat :=
  Nat.pow 5 n

def tenPow (n : Nat) : Nat :=
  Nat.pow 10 n

/-- The exponent of the greatest power of ten that is at most `n`, for a positive `n` below ten to
the power `2 ^ bits`. -/
def decimalLog : Nat → Nat → Nat
  | 0, _ => 0
  | bits + 1, n =>
    let half := twoPow bits
    if n < tenPow half then decimalLog bits n else half + decimalLog bits (n / tenPow half)

/-- A number of steps that halving needs to reach every exponent which a number `n` can have. -/
def searchBits (n : Nat) : Nat :=
  n.log2.log2 + 1

/-- The number of decimal digits of a natural number; zero has one. -/
def digitCount (n : Nat) : Nat :=
  decimalLog (searchBits n) n + 1

/-- Takes a factor out of a positive number as often as it goes, if that is less than `2 ^ bits`
times; the second part counts how often. -/
def stripFactor (factor : Nat) : Nat → Nat → Nat × Nat
  | 0, n => (n, 0)
  | bits + 1, n =>
    let half := twoPow bits
    let power := Nat.pow factor half
    if n % power = 0 then
      let stripped := stripFactor factor bits (n / power)
      (stripped.1, stripped.2 + half)
    else stripFactor factor bits n

/-- One more than the greatest signed word of 64 bits. -/
def wordBound : Int :=
  twoPow 63

/-- The natural number nearest to `n / d`; of two equally near ones, the even one. -/
def roundDiv (n d : Nat) : Nat :=
  let q := n / d
  let r := n % d
  if d < 2 * r ∨ (2 * r = d ∧ q % 2 = 1) then q + 1 else q

end ZeroGuard
