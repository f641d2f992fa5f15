import Mathlib.Data.Nat.Log
import Mathlib.Algebra.Order.Field.Rat
import Mathlib.Tactic.FieldSimp
import Mathlib.Tactic.Ring
import Mathlib.Tactic.NormNum

/-!
# Number literals and double-precision numbers

A JSON number is a decimal literal (`Rossoctl.Json.Literal`), with its value among
the rationals. Decoding it yields the nearest double-precision number, ties going
to the even one. Every finite double is a whole multiple of `2 ^ -1074`, so a
double is given here by a sign and that multiple, and rounding is a division of
natural numbers (`Rossoctl.Json.nearestMag`).

No double is the image of one number only: every literal has a twin of another
value with the same nearest double (`Rossoctl.Json.Literal.value_twin_ne`,
`Rossoctl.Json.Literal.nearest_twin`). For a literal that is not exact the twin is
the double itself, and for an exact one it is the literal with a one added far
behind its last digit.
-/

namespace Rossoctl.Json

/-! ### Literals and doubles -/

/-- A decimal literal: a sign, digits and a decimal exponent. -/
structure Literal where
  neg : Bool
  digits : ℕ
  exp : ℤ
  deriving DecidableEq

/-- The number of binary places of the smallest double. -/
def places : ℕ := 1074

/-- A finite double: a sign, and the magnitude in units of `2 ^ -1074`. -/
structure Float64 where
  neg : Bool
  mag : ℕ
  deriving DecidableEq

/-- The quotient, rounded to the nearest integer, ties to even. -/
def roundHalfEven (a b : ℕ) : ℕ :=
  if 2 * (a % b) < b then a / b
  else if b < 2 * (a % b) then a / b + 1
  else if a / b % 2 = 0 then a / b
  else a / b + 1

/-- The distance between neighbouring doubles around a magnitude: doubles have 53
significant bits. -/
def ulp (m : ℕ) : ℕ := 2 ^ (m.log2 - 52)

/-- The magnitude of the double nearest to a fraction. -/
def nearestMag (a b : ℕ) : ℕ := ulp (a / b) * roundHalfEven a (b * ulp (a / b))

namespace Literal

/-- The numerator of the magnitude in units of `2 ^ -1074`. -/
def num (n : Literal) : ℕ := n.digits * 10 ^ n.exp.toNat * 2 ^ places

/-- The denominator of the magnitude in units of `2 ^ -1074`. -/
def den (n : Literal) : ℕ := 10 ^ (-n.exp).toNat

/-- The nearest double, if it is finite. -/
def nearest (n : Literal) : Float64 := ⟨n.neg, nearestMag n.num n.den⟩

/-- The nearest double is finite: it is below `2 ^ 1024`. -/
def inRange (n : Literal) : Bool := decide (n.nearest.mag < 2 ^ (1024 + places))

/-- **The mathematical value** of a literal. -/
def value (n : Literal) : ℚ := (if n.neg then -1 else 1) * (n.digits * 10 ^ n.exp)

end Literal

/-! ### Rounding -/

theorem ulp_pos (m : ℕ) : 0 < ulp m := Nat.two_pow_pos _

theorem roundHalfEven_le (a b : ℕ) : roundHalfEven a b ≤ a / b + 1 := by
  unfold roundHalfEven
  split_ifs <;> omega

theorem roundHalfEven_of_lt {a b q r : ℕ} (ha : a = b * q + r) (hr : 2 * r < b) :
    roundHalfEven a b = q := by
  have hb : r < b := by omega
  have hmod : a % b = r := by rw [ha, Nat.mul_add_mod, Nat.mod_eq_of_lt hb]
  have hdiv : a / b = q := by
    rw [ha, Nat.mul_add_div (by omega), Nat.div_eq_of_lt hb, Nat.add_zero]
  rw [roundHalfEven, hmod, if_pos hr, hdiv]

/-- The mantissa of the nearest double has at most 53 bits, or is `2 ^ 53`. -/
theorem mantissa_le (a b : ℕ) : roundHalfEven a (b * ulp (a / b)) ≤ 2 ^ 53 := by
  refine (roundHalfEven_le _ _).trans ?_
  rw [← Nat.div_div_eq_div_mul]
  have hlt : a / b < 2 ^ 53 * ulp (a / b) := by
    rw [ulp, ← pow_add]
    exact Nat.lt_log2_self.trans_le (Nat.pow_le_pow_right (by decide) (by omega))
  exact Nat.succ_le_of_lt (Nat.div_lt_of_lt_mul (by rwa [Nat.mul_comm]))

/-- **A double is a multiple of its own ulp.** -/
theorem ulp_dvd_nearestMag (a b : ℕ) : ulp (nearestMag a b) ∣ nearestMag a b := by
  obtain ⟨t, ht⟩ : ∃ t, ulp (a / b) = 2 ^ t := ⟨_, rfl⟩
  have hmag : nearestMag a b = 2 ^ t * roundHalfEven a (b * ulp (a / b)) := by
    rw [nearestMag, ← ht]
  rw [hmag, ulp]
  rcases (mantissa_le a b).lt_or_eq with hlt | heq
  · have hlt : 2 ^ t * roundHalfEven a (b * ulp (a / b)) < 2 ^ (t + 53) := by
      rw [pow_add]
      exact Nat.mul_lt_mul_of_pos_left hlt (Nat.two_pow_pos t)
    have hlog : (2 ^ t * roundHalfEven a (b * ulp (a / b))).log2 < t + 53 := by
      rcases eq_or_ne (2 ^ t * roundHalfEven a (b * ulp (a / b))) 0 with h0 | h0
      · rw [h0, Nat.log2_zero]
        omega
      · exact (Nat.log2_lt h0).mpr hlt
    exact (pow_dvd_pow 2 (by omega)).trans (Nat.dvd_mul_right _ _)
  · rw [heq, ← pow_add, Nat.log2_two_pow]
    exact pow_dvd_pow 2 (by omega)

/-- **A double is its own nearest double.** -/
theorem nearestMag_exact {m d : ℕ} (hd : 0 < d) (hm : ulp m ∣ m) : nearestMag (m * d) d = m := by
  obtain ⟨k, hk⟩ := hm
  have hq : m * d / d = m := Nat.mul_div_cancel m hd
  have hround : roundHalfEven (m * d) (d * ulp m) = k := by
    refine roundHalfEven_of_lt (r := 0) ?_ (by simpa using Nat.mul_pos hd (ulp_pos m))
    rw [Nat.add_zero, Nat.mul_assoc, ← hk, Nat.mul_comm]
  rw [nearestMag, hq, hround, ← hk]

/-- A fraction a little above a double has that double as the nearest. -/
theorem nearestMag_above {m d s t : ℕ} (hd : 0 < d) (hm : ulp m ∣ m) (hs : 2 * s < t) :
    nearestMag (m * d * t + s) (d * t) = m := by
  obtain ⟨k, hk⟩ := hm
  have hdt : t ≤ d * t := Nat.le_mul_of_pos_left t hd
  have hq : (m * d * t + s) / (d * t) = m := by
    rw [Nat.mul_assoc, Nat.mul_comm m, Nat.mul_add_div (by omega), Nat.div_eq_of_lt (by omega),
      Nat.add_zero]
  have hround : roundHalfEven (m * d * t + s) (d * t * ulp m) = k := by
    refine roundHalfEven_of_lt (r := s) ?_ (hs.trans_le ?_)
    · rw [Nat.mul_assoc (d * t), ← hk]
      ring
    · exact hdt.trans (Nat.le_mul_of_pos_right _ (ulp_pos m))
  rw [nearestMag, hq, hround, ← hk]

/-! ### Twins -/

namespace Literal

variable (n : Literal) (f : Float64)

theorem den_pos : 0 < n.den := Nat.pow_pos (by decide)

theorem value_eq : n.value = (if n.neg then -1 else 1) * ((n.num : ℚ) / n.den) / 2 ^ places := by
  have hexp : (10 : ℚ) ^ n.exp = 10 ^ n.exp.toNat / 10 ^ (-n.exp).toNat := by
    rw [← zpow_natCast, ← zpow_natCast, ← zpow_sub₀ (by norm_num)]
    congr 1
    omega
  rw [value, num, den, hexp]
  push_cast
  field_simp

theorem cross_mul_of_value_eq {n n' : Literal} (hneg : n.neg = n'.neg) (h : n.value = n'.value) :
    n.num * n'.den = n'.num * n.den := by
  have hd : (n.den : ℚ) ≠ 0 := Nat.cast_ne_zero.mpr n.den_pos.ne'
  have hd' : (n'.den : ℚ) ≠ 0 := Nat.cast_ne_zero.mpr n'.den_pos.ne'
  have hsign : (if n'.neg then (-1 : ℚ) else 1) ≠ 0 := by split <;> norm_num
  rw [value_eq, value_eq, hneg, div_left_inj' (by positivity), mul_right_inj' hsign,
    div_eq_div_iff hd hd'] at h
  exact_mod_cast h

/-- The literal for a double. -/
def ofFloat (f : Float64) : Literal := ⟨f.neg, f.mag * 5 ^ places, -places⟩

/-- The literal with a one added far behind the last digit. -/
def nudge (n : Literal) : Literal :=
  ⟨n.neg, n.digits * 10 ^ (n.exp.toNat + places) + 1, n.exp - (n.exp.toNat + places : ℕ)⟩

/-- **Another literal with the same nearest double.** -/
def twin (n : Literal) : Literal :=
  if n.num = nearestMag n.num n.den * n.den then n.nudge else ofFloat n.nearest

theorem num_ofFloat : (ofFloat f).num = f.mag * 10 ^ places := by
  have hexp : (ofFloat f).exp.toNat = 0 := rfl
  have h10 : (10 : ℕ) ^ places = 5 ^ places * 2 ^ places := by rw [← Nat.mul_pow]
  rw [num, hexp, ofFloat, pow_zero, mul_one, Nat.mul_assoc, h10]

theorem den_ofFloat : (ofFloat f).den = 10 ^ places := rfl

theorem num_nudge : n.nudge.num = n.num * 10 ^ places + 2 ^ places := by
  have hexp : n.nudge.exp.toNat = 0 := by
    have : n.nudge.exp = n.exp - (n.exp.toNat + places : ℕ) := rfl
    omega
  have hdigits : n.nudge.digits = n.digits * 10 ^ (n.exp.toNat + places) + 1 := rfl
  rw [num, hexp, num, hdigits]
  ring

theorem den_nudge : n.nudge.den = n.den * 10 ^ places := by
  have hexp : (-n.nudge.exp).toNat = (-n.exp).toNat + places := by
    have : n.nudge.exp = n.exp - (n.exp.toNat + places : ℕ) := rfl
    omega
  rw [den, hexp, pow_add, den]

theorem two_mul_two_pow_lt : ∀ k, 0 < k → 2 * 2 ^ k < 10 ^ k
  | 1, _ => by decide
  | k + 2, _ => by
    have ih := two_mul_two_pow_lt (k + 1) k.succ_pos
    rw [pow_succ 2 (k + 1), pow_succ 10 (k + 1)]
    omega

theorem neg_twin : n.twin.neg = n.neg := by
  rw [twin, apply_ite neg, nudge, ofFloat, nearest, ite_self]

theorem nearestMag_twin : nearestMag n.twin.num n.twin.den = nearestMag n.num n.den := by
  have hdvd := ulp_dvd_nearestMag n.num n.den
  rw [twin]
  split
  · rename_i hexact
    have hsmall := two_mul_two_pow_lt places (by decide)
    rw [num_nudge, den_nudge]
    generalize 2 ^ places = s at hsmall ⊢
    generalize 10 ^ places = t at hsmall ⊢
    nth_rewrite 1 [hexact]
    exact nearestMag_above n.den_pos hdvd hsmall
  · have hpos : 0 < 10 ^ places := Nat.pow_pos (by decide)
    rw [num_ofFloat, den_ofFloat, nearest]
    generalize 10 ^ places = t at hpos ⊢
    exact nearestMag_exact hpos hdvd

theorem nearest_twin : n.twin.nearest = n.nearest := by
  rw [nearest, nearest, neg_twin, nearestMag_twin]

theorem value_twin_ne : n.twin.value ≠ n.value := by
  intro h
  have hcross := cross_mul_of_value_eq n.neg_twin h
  rw [twin] at hcross
  split at hcross
  · rw [num_nudge, den_nudge, Nat.add_mul, Nat.mul_right_comm, Nat.mul_assoc n.num] at hcross
    have hpos : 0 < 2 ^ places * n.den := Nat.mul_pos (Nat.two_pow_pos _) n.den_pos
    omega
  · rename_i hinexact
    rw [num_ofFloat, den_ofFloat, Nat.mul_right_comm] at hcross
    exact hinexact (Nat.eq_of_mul_eq_mul_right (Nat.pow_pos (by decide)) hcross).symm

end Literal

end Rossoctl.Json
