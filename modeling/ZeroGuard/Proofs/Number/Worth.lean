import ZeroGuard.Proofs.Number.Exact
import ZeroGuard.Proofs.Number.Nearest

namespace ZeroGuard

/-- What a real number is worth: a rational, or an infinity. -/
inductive Worth
  | rational (q : ℚ)
  | infinite (negative : Bool)

namespace Magnitude

/-- What a magnitude in normal form is worth. -/
inductive IsWorth : Magnitude → Worth → Prop
  | value {exact : ExactValue} {q : ℚ} : exact.Normal → exact.value = q →
      IsWorth (.value exact) (.rational q)
  | infinite (negative : Bool) : IsWorth (.infinite negative) (.infinite negative)

/-- One worth has one magnitude. -/
theorem IsWorth.eq_iff {m n : Magnitude} {v w : Worth} (first : m.IsWorth v)
    (second : n.IsWorth w) : m = n ↔ v = w := by
  cases first with
  | infinite negative => cases second <;> simp
  | value normal worth =>
    cases second with
    | infinite negative => simp
    | value other also =>
      rw [Magnitude.value.injEq, Worth.rational.injEq, ← worth, ← also]
      exact ⟨congrArg _, normal.eq_of_value_eq other⟩

theorem ofRat_isWorth (q : ℚ) : (ofRat q).IsWorth (.rational q) := by
  refine .value (ExactValue.ofRatio_normal _ _ q.den_pos 0 0) ?_
  have signed := signed_ratio q.num q.den
  rw [decide_eq_false (not_lt.mpr (Int.natCast_nonneg q.den)), Bool.bne_false, Int.natAbs_natCast,
    Int.cast_natCast, Rat.num_div_den] at signed
  rw [ExactValue.ofRatio_value _ _ q.den_pos, signed, zpow_zero, zpow_zero, mul_one, mul_one]

theorem ofInt_isWorth (n : ℤ) : (ofInt n).IsWorth (.rational n) :=
  ofRat_isWorth n

end Magnitude

/-- A comparison that comes to an end and tells whether a proposition holds. -/
def Decides (run : Except Fault Bool) (proposition : Prop) : Prop :=
  ∃ outcome, run = .ok outcome ∧ (outcome = true ↔ proposition)

/-- What a float other than a NaN is worth. -/
inductive Binary.IsWorth {f : Format} : Binary f → Worth → Prop
  | finite (negative : Bool) (rank : Fin f.size) :
      IsWorth (.finite negative rank) (.rational (Binary.finite negative rank).value)
  | infinite (negative : Bool) : IsWorth (.infinite negative) (.infinite negative)

theorem Binary.exists_isWorth {f : Format} {x : Binary f} (number : x.isNaN = false) :
    ∃ w, x.IsWorth w := by
  cases x with
  | nan => cases number
  | infinite negative => exact ⟨_, .infinite negative⟩
  | finite negative rank => exact ⟨_, .finite negative rank⟩

theorem Binary.isWorth_of_isFinite {f : Format} {x : Binary f} (finite : x.isFinite = true) :
    x.IsWorth (.rational x.value) := by
  cases x with
  | finite negative rank => exact .finite negative rank
  | _ => cases finite

/-- What a decimal other than a NaN is worth. -/
inductive Decimal.IsWorth : Decimal → Worth → Prop
  | finite (negative : Bool) (coefficient : Nat) (exponent : ℤ) :
      IsWorth (.finite negative coefficient exponent)
        (.rational (Decimal.finite negative coefficient exponent).value)
  | infinite (negative : Bool) : IsWorth (.infinite negative) (.infinite negative)

theorem Binary.IsWorth.magnitude {f : Format} {x : Binary f} {w : Worth} (worth : x.IsWorth w) :
    ∃ m, Magnitude.ofBinary? x = some m ∧ m.IsWorth w := by
  cases worth with
  | infinite negative => exact ⟨_, rfl, .infinite negative⟩
  | finite negative rank =>
    refine ⟨_, rfl, .value (ExactValue.ofRatio_normal _ _ one_pos _ _) ?_⟩
    rw [ExactValue.ofRatio_value _ _ one_pos, Binary.value, Nat.cast_one, div_one, zpow_zero,
      mul_one, zpow_neg, zpow_natCast, div_eq_mul_inv]

theorem Decimal.IsWorth.magnitude {d : Decimal} {w : Worth} (worth : d.IsWorth w) :
    ∃ m, Magnitude.ofDecimal? d = some m ∧ m.IsWorth w := by
  cases worth with
  | infinite negative => exact ⟨_, rfl, .infinite negative⟩
  | finite negative coefficient exponent =>
    refine ⟨_, rfl, .value (ExactValue.ofRatio_normal _ _ one_pos _ _) ?_⟩
    have ten : (10 : ℚ) = 2 * 5 := by norm_num
    rw [ExactValue.ofRatio_value _ _ one_pos, Decimal.value, Nat.cast_one, div_one, ten, mul_zpow,
      mul_assoc]

namespace Number

/-- What a real number of a plain kind is worth. A truth value counts as 0 or 1. -/
inductive IsWorth : Number → Worth → Prop
  | bool (b : Bool) : IsWorth (.bool b) (.rational (if b then 1 else 0))
  | int (n : ℤ) : IsWorth (.int n) (.rational n)
  | rational (q : ℚ) : IsWorth (.rational q) (.rational q)
  | float {x : Double} {w : Worth} : x.IsWorth w → IsWorth (.float x) w
  | decimal {d : Decimal} {w : Worth} : d.IsWorth w → IsWorth (.decimal d) w

/-- What the parts of a number of a plain kind are worth. A real number has the imaginary part 0. -/
inductive HasParts : Number → Worth → Worth → Prop
  | real {n : Number} {w : Worth} : n.IsWorth w → HasParts n w (.rational 0)
  | complex {z : Complex} {v w : Worth} : z.re.IsWorth v → z.im.IsWorth w →
      HasParts (.complex z) v w

variable {a b : Number} {v w v' w' : Worth}

/-- A number of a plain kind that neither is a NaN nor has one as a part. -/
def isDefinite : Number → Bool
  | bool _ | int _ | rational _ => true
  | float x => !x.isNaN
  | complex z => !z.re.isNaN && !z.im.isNaN
  | decimal (.nan ..) => false
  | decimal _ => true
  | float32 _ | float64 _ | int8 _ | int64 _ => false

theorem exists_hasParts (definite : a.isDefinite = true) : ∃ v w, a.HasParts v w := by
  cases a with
  | bool b => exact ⟨_, _, .real (.bool b)⟩
  | int n => exact ⟨_, _, .real (.int n)⟩
  | rational q => exact ⟨_, _, .real (.rational q)⟩
  | float x =>
    have number : x.isNaN = false := by simpa [isDefinite] using definite
    obtain ⟨w, worth⟩ := Binary.exists_isWorth number
    exact ⟨w, _, .real (.float worth)⟩
  | complex z =>
    have numbers : z.re.isNaN = false ∧ z.im.isNaN = false := by simpa [isDefinite] using definite
    obtain ⟨v, worthRe⟩ := Binary.exists_isWorth numbers.1
    obtain ⟨w, worthIm⟩ := Binary.exists_isWorth numbers.2
    exact ⟨v, w, .complex worthRe worthIm⟩
  | decimal d =>
    cases d with
    | nan => cases definite
    | infinite negative => exact ⟨_, _, .real (.decimal (.infinite negative))⟩
    | finite negative c e => exact ⟨_, _, .real (.decimal (.finite negative c e))⟩
  | float32 | float64 | int8 | int64 => cases definite

theorem IsWorth.magnitudes (worth : a.IsWorth w) :
    ∃ m, a.magnitudes? = some (m, .ofInt 0) ∧ m.IsWorth w := by
  cases worth with
  | bool b =>
    refine ⟨_, rfl, ?_⟩
    cases b with
    | false => exact_mod_cast Magnitude.ofInt_isWorth 0
    | true => exact_mod_cast Magnitude.ofInt_isWorth 1
  | int n => exact ⟨_, rfl, Magnitude.ofInt_isWorth n⟩
  | rational q => exact ⟨_, rfl, Magnitude.ofRat_isWorth q⟩
  | float worth =>
    obtain ⟨m, found, worth⟩ := worth.magnitude
    exact ⟨m, by simp [magnitudes?, found], worth⟩
  | decimal worth =>
    obtain ⟨m, found, worth⟩ := worth.magnitude
    exact ⟨m, by simp [magnitudes?, found], worth⟩

theorem HasParts.magnitudes (parts : a.HasParts v w) :
    ∃ m n, a.magnitudes? = some (m, n) ∧ m.IsWorth v ∧ n.IsWorth w := by
  cases parts with
  | real worth =>
    obtain ⟨m, found, worth⟩ := worth.magnitudes
    exact ⟨m, _, found, worth, by exact_mod_cast Magnitude.ofInt_isWorth 0⟩
  | complex re im =>
    obtain ⟨m, foundRe, re⟩ := re.magnitude
    obtain ⟨n, foundIm, im⟩ := im.magnitude
    exact ⟨m, n, by simp [magnitudes?, foundRe, foundIm], re, im⟩

theorem HasParts.unique (parts : a.HasParts v w) (also : a.HasParts v' w') : v = v' ∧ w = w' := by
  obtain ⟨m, n, found, re, im⟩ := parts.magnitudes
  obtain ⟨m', n', again, re', im'⟩ := also.magnitudes
  obtain ⟨rfl, rfl⟩ := Prod.mk.inj (Option.some.inj (found.symm.trans again))
  exact ⟨(re.eq_iff re').mp rfl, (im.eq_iff im').mp rfl⟩

theorem HasParts.plain (parts : a.HasParts v w) : a.hasFixedWidth = false ∧ a.isSignaling = false := by
  cases parts with
  | complex re im => exact ⟨rfl, rfl⟩
  | real worth =>
    cases worth with
    | decimal worth => cases worth <;> exact ⟨rfl, rfl⟩
    | _ => exact ⟨rfl, rfl⟩

theorem roundedBeside_of_plain (plainA : a.hasFixedWidth = false) (plainB : b.hasFixedWidth = false) :
    roundedBeside a b = .ok b := by
  cases a <;> cases b <;> simp_all [roundedBeside, hasFixedWidth]

/-- Numbers of plain kinds are equal if their parts are worth the same. -/
theorem HasParts.equal_decides (first : a.HasParts v w) (second : b.HasParts v' w') :
    Decides (a.equal b) (v = v' ∧ w = w') := by
  obtain ⟨plainA, quietA⟩ := first.plain
  obtain ⟨plainB, quietB⟩ := second.plain
  obtain ⟨m, n, foundA, re, im⟩ := first.magnitudes
  obtain ⟨m', n', foundB, re', im'⟩ := second.magnitudes
  have run : a.equal b = .ok (a.sameValue b) := by
    simp only [equal, quietA, quietB, roundedBeside_of_plain plainA plainB,
      roundedBeside_of_plain plainB plainA]
    rfl
  refine ⟨_, run, ?_⟩
  rw [sameValue, foundA, foundB, ← re.eq_iff re', ← im.eq_iff im']
  simp

end Number

end ZeroGuard
