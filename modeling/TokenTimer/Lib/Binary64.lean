/-
  TokenTimer.Lib.Binary64 — finite IEEE 754 binary64 numbers, rounding of a
  rational to the nearest one, and the SHORTEST decimal that rounds back.

  A finite number is sign, significand and exponent, CANONICAL (a significand
  below 2^52 only at the least exponent), so two numbers with the same fields
  are the same number; the two zeros differ in the sign alone.

  Main results:
    * `roundToBinary_magnitude` — rounding a binary64 value gives it back.
    * `shortestDecimal_rounds` — the shortest decimal rounds to the number.
-/

import Mathlib.Algebra.Order.Field.Rat
import Mathlib.Algebra.Order.Round
import Mathlib.Data.Int.Log
import Mathlib.Data.Rat.Floor
import Mathlib.Tactic.Linarith
import Mathlib.Tactic.NormNum
import Mathlib.Tactic.Positivity
import Mathlib.Tactic.Ring

namespace Lib.Numeric

/-! ## §1. The format. -/

/-- A finite binary64 number, `± mant · 2 ^ exp`. -/
structure Binary64 where
  neg : Bool
  mant : Nat
  exp : Int
  mant_lt : mant < 2 ^ 53
  exp_ge : -1074 ≤ exp
  exp_le : exp ≤ 971
  canonical : 2 ^ 52 ≤ mant ∨ exp = -1074
deriving DecidableEq

/-- The absolute value. -/
def Binary64.magnitude (x : Binary64) : ℚ := (x.mant : ℚ) * 2 ^ x.exp

/-- Equal as numbers: `0` and `-0` are the same number. -/
def Binary64.SameNumber (x y : Binary64) : Prop :=
  x = y ∨ (x.mant = 0 ∧ y.mant = 0)

instance (x y : Binary64) : Decidable (x.SameNumber y) :=
  inferInstanceAs (Decidable (x = y ∨ (x.mant = 0 ∧ y.mant = 0)))

variable {x : Binary64}

theorem Binary64.magnitude_pos (h : x.mant ≠ 0) : 0 < x.magnitude := by
  unfold magnitude
  have hm : (0 : ℚ) < x.mant := by exact_mod_cast Nat.pos_of_ne_zero h
  exact mul_pos hm (zpow_pos (by norm_num) _)

/-- Sign, significand and exponent determine the number. -/
theorem Binary64.ext_fields {y : Binary64} (hn : x.neg = y.neg) (hm : x.mant = y.mant)
    (he : x.exp = y.exp) : x = y := by
  cases x
  cases y
  simp only at hn hm he
  subst hn
  subst hm
  subst he
  rfl

/-! ## §2. Rounding to nearest, ties to even. -/

/-- The integer nearest to `q`, the even one of two. -/
def roundHalfEven (q : ℚ) : Int :=
  let low := ⌊q⌋
  if q - low < 1 / 2 then low
  else if 1 / 2 < q - low then low + 1
  else if low % 2 = 0 then low else low + 1

/-- The exponent of the last place of the binary64 numbers around `v > 0`. -/
def lastPlace (v : ℚ) : Int := max (-1074) (Int.log 2 v - 52)

/-- Significand and exponent of the binary64 number nearest to `v > 0` (an
    exponent above 971 stands for infinity). -/
def roundToBinary (v : ℚ) : Nat × Int :=
  let e := lastPlace v
  let m := (roundHalfEven (v / 2 ^ e)).toNat
  if m = 2 ^ 53 then (2 ^ 52, e + 1) else (m, e)

theorem roundHalfEven_natCast (n : Nat) : roundHalfEven (n : ℚ) = n := by
  unfold roundHalfEven
  have hfloor : ⌊(n : ℚ)⌋ = (n : Int) := Int.floor_natCast n
  simp [hfloor]

theorem lastPlace_magnitude (h : x.mant ≠ 0) : lastPlace x.magnitude = x.exp := by
  have hpos := Binary64.magnitude_pos h
  have htwo : (0 : ℚ) < 2 ^ x.exp := zpow_pos (by norm_num) _
  have hlt : x.magnitude < (2 : ℚ) ^ (x.exp + 53) := by
    rw [zpow_add₀ (by norm_num : (2 : ℚ) ≠ 0), mul_comm ((2 : ℚ) ^ x.exp)]
    have hm : (x.mant : ℚ) < 2 ^ (53 : Int) := by exact_mod_cast x.mant_lt
    exact mul_lt_mul_of_pos_right hm htwo
  have hlog : Int.log 2 x.magnitude < x.exp + 53 :=
    (Int.lt_zpow_iff_log_lt (by norm_num) hpos).mp (by exact_mod_cast hlt)
  have hge := x.exp_ge
  unfold lastPlace
  rcases x.canonical with hnormal | hsub
  · -- A NORMAL number fills all 53 places.
    have hle : (2 : ℚ) ^ (x.exp + 52) ≤ x.magnitude := by
      rw [zpow_add₀ (by norm_num : (2 : ℚ) ≠ 0), mul_comm ((2 : ℚ) ^ x.exp)]
      have hm : (2 : ℚ) ^ (52 : Int) ≤ x.mant := by exact_mod_cast hnormal
      exact mul_le_mul_of_nonneg_right hm htwo.le
    have hlog' : x.exp + 52 ≤ Int.log 2 x.magnitude :=
      (Int.zpow_le_iff_le_log (by norm_num) hpos).mp (by exact_mod_cast hle)
    omega
  · omega

/-- **IDEMPOTENCE**: a binary64 value rounds to itself. -/
theorem roundToBinary_magnitude (h : x.mant ≠ 0) :
    roundToBinary x.magnitude = (x.mant, x.exp) := by
  have htwo : (2 : ℚ) ^ x.exp ≠ 0 := zpow_ne_zero _ (by norm_num)
  have hdiv : x.magnitude / 2 ^ x.exp = (x.mant : ℚ) := by
    unfold Binary64.magnitude
    exact mul_div_cancel_right₀ _ htwo
  have hmant := x.mant_lt
  unfold roundToBinary
  simp only [lastPlace_magnitude h, hdiv, roundHalfEven_natCast, Int.toNat_natCast]
  rw [if_neg (by omega)]

/-! ## §3. The shortest decimal. -/

/-- A decimal `digits · 10 ^ exp10`. -/
structure Decimal where
  digits : Nat
  exp10 : Int
deriving DecidableEq, Repr

def Decimal.value (d : Decimal) : ℚ := (d.digits : ℚ) * 10 ^ d.exp10

def Decimal.roundsTo (d : Decimal) (x : Binary64) : Bool :=
  d.digits ≠ 0 && roundToBinary d.value = (x.mant, x.exp)

/-- The two decimals of `k` digits next to the value: since the numbers that
    round to `x` are an interval around its value, if SOME decimal of `k` digits
    rounds to `x` then one of these does. -/
def neighbours (v : ℚ) (k : Nat) : Decimal × Decimal :=
  let e := Int.log 10 v + 1 - k
  let low := ⌊v / 10 ^ e⌋.toNat
  (⟨low, e⟩, if low + 1 = 10 ^ k then ⟨10 ^ (k - 1), e + 1⟩ else ⟨low + 1, e⟩)

/-- The closer of two decimals, the even one of two equally close. -/
def closer (v : ℚ) (a b : Decimal) : Decimal :=
  if |v - a.value| < |v - b.value| then a
  else if |v - b.value| < |v - a.value| then b
  else if a.digits % 2 = 0 then a else b

/-- The decimal of `k` digits that rounds to `x` and is closest to it. -/
def decimalOfLength (x : Binary64) (k : Nat) : Option Decimal :=
  let (a, b) := neighbours x.magnitude k
  match a.roundsTo x, b.roundsTo x with
  | true, true => some (closer x.magnitude a b)
  | true, false => some a
  | false, true => some b
  | false, false => none

def exactDecimal (x : Binary64) : Decimal :=
  if 0 ≤ x.exp then ⟨x.mant * 2 ^ x.exp.toNat, 0⟩
  else ⟨x.mant * 5 ^ (-x.exp).toNat, x.exp⟩

/-- The first length, from `k` on, at which a decimal rounds to `x`.  Seventeen
    digits always do, so the exact expansion only closes the recursion. -/
def searchDecimal (x : Binary64) (k : Nat) : Nat → Decimal
  | 0 => exactDecimal x
  | fuel + 1 =>
    match decimalOfLength x k with
    | some d => d
    | none => searchDecimal x (k + 1) fuel

/-- The shortest decimal that rounds to `x`, and the closest of those. -/
def shortestDecimal (x : Binary64) : Decimal := searchDecimal x 1 17

theorem exactDecimal_value (x : Binary64) : (exactDecimal x).value = x.magnitude := by
  unfold exactDecimal Decimal.value Binary64.magnitude
  split
  next h =>
    obtain ⟨n, hn⟩ := Int.eq_ofNat_of_zero_le h
    rw [hn]
    simp
  next h =>
    obtain ⟨n, hn⟩ := Int.eq_ofNat_of_zero_le (show 0 ≤ -x.exp by omega)
    have hexp : x.exp = -(n : Int) := by omega
    rw [hexp]
    simp only [neg_neg, Int.toNat_natCast, Nat.cast_mul, Nat.cast_pow, Nat.cast_ofNat,
      zpow_neg, zpow_natCast]
    have hten : (10 : ℚ) ^ n = 2 ^ n * 5 ^ n := by
      rw [← mul_pow]
      norm_num
    rw [hten, mul_inv]
    have hfive : (5 : ℚ) ^ n ≠ 0 := by positivity
    field_simp

theorem exactDecimal_roundsTo (h : x.mant ≠ 0) :
    (exactDecimal x).roundsTo x = true := by
  have hval := exactDecimal_value x
  have hdig : (exactDecimal x).digits ≠ 0 := by
    intro hzero
    have hpos := Binary64.magnitude_pos h
    rw [← hval, Decimal.value, hzero] at hpos
    simp at hpos
  unfold Decimal.roundsTo
  rw [hval, roundToBinary_magnitude h]
  simp [hdig]

theorem decimalOfLength_roundsTo {k : Nat} {d : Decimal} (h : decimalOfLength x k = some d) :
    d.roundsTo x = true := by
  unfold decimalOfLength at h
  simp only at h
  split at h
  next ha hb =>
    obtain rfl := Option.some.inj h
    unfold closer
    split
    · exact ha
    split
    · exact hb
    split
    · exact ha
    · exact hb
  next ha _ => exact (Option.some.inj h) ▸ ha
  next _ hb => exact (Option.some.inj h) ▸ hb
  · cases h

theorem searchDecimal_roundsTo (h : x.mant ≠ 0) (fuel k : Nat) :
    (searchDecimal x k fuel).roundsTo x = true := by
  induction fuel generalizing k with
  | zero => exact exactDecimal_roundsTo h
  | succ fuel ih =>
    unfold searchDecimal
    split
    next d hd => exact decimalOfLength_roundsTo hd
    · exact ih (k + 1)

/-- **ROUND TRIP**: the shortest decimal rounds to the number it is printed
    for. -/
theorem shortestDecimal_rounds (h : x.mant ≠ 0) :
    (shortestDecimal x).digits ≠ 0 ∧
      roundToBinary (shortestDecimal x).value = (x.mant, x.exp) := by
  have hr : (shortestDecimal x).roundsTo x = true := searchDecimal_roundsTo h 17 1
  simpa [Decimal.roundsTo] using hr

end Lib.Numeric
