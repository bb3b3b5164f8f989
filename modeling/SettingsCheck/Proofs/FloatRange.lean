import Mathlib
import SettingsCheck.Decimal.Reading

/-!
Whole numbers as floats. A number of more than 53 bits is cut to 53 bits and rounded to the nearest
of its neighbours, to the even one of two that are equally near. So a number has a finite float just
if it lies below the middle between the largest float and the power of two behind it.
-/

namespace SettingsCheck

open Float.Model (Format UnpackedFloat totalExponent)
open Float.Model.UnpackedFloat

section Cutting

/-- A mantissa with the two bits that tell what was cut off: whether it is at least one half, and
whether it is neither nothing nor one half. -/
structure CutFrom (n k : Nat) (em : ExtendedMantissa) : Prop where
  mantissa : em.mantissa = n / 2 ^ k
  roundBit : em.roundBit = true ↔ 2 ^ k ≤ 2 * (n % 2 ^ k)
  stickyBit : em.stickyBit = true ↔ 2 * (n % 2 ^ k) ≠ 0 ∧ 2 * (n % 2 ^ k) ≠ 2 ^ k

theorem CutFrom.exact (n : Nat) : CutFrom n 0 (.ofMantissaAndAccuracy n .exact) := by
  constructor <;> simp [ExtendedMantissa.ofMantissaAndAccuracy, Nat.mod_one]

theorem CutFrom.shiftRightOne {n k : Nat} {em : ExtendedMantissa} (h : CutFrom n k em) :
    CutFrom n (k + 1) em.shiftRightOne := by
  have hrest : n % 2 ^ (k + 1) = n % 2 ^ k + 2 ^ k * (n / 2 ^ k % 2) := by
    rw [Nat.pow_succ, Nat.mod_mul]
  have hlt : n % 2 ^ k < 2 ^ k := Nat.mod_lt n (Nat.two_pow_pos k)
  have hpow : 2 ^ (k + 1) = 2 * 2 ^ k := Nat.pow_succ'
  have hbit : n / 2 ^ k % 2 = 0 ∨ n / 2 ^ k % 2 = 1 := Nat.mod_two_eq_zero_or_one _
  constructor
  · simp only [ExtendedMantissa.shiftRightOne, h.mantissa, Nat.pow_succ, Nat.div_div_eq_div_mul]
  · simp only [ExtendedMantissa.shiftRightOne, h.mantissa, bne_iff_ne, hrest]
    rcases hbit with hbit | hbit <;> rw [hbit] <;> omega
  · simp only [ExtendedMantissa.shiftRightOne, Bool.or_eq_true, h.roundBit, h.stickyBit, hrest]
    rcases hbit with hbit | hbit <;> rw [hbit] <;> omega

theorem CutFrom.shiftRight (n k : Nat) :
    CutFrom n k (ExtendedMantissa.ofMantissaAndAccuracy n .exact >>> k) := by
  induction k with
  | zero => exact CutFrom.exact n
  | succ k ih => exact ih.shiftRightOne

/-- The number without its last `k` bits, rounded to the nearest, and to the even one of two. -/
def nearest (n k : Nat) : Nat :=
  if 2 * (n % 2 ^ k) < 2 ^ k then n / 2 ^ k
  else if 2 * (n % 2 ^ k) = 2 ^ k then n / 2 ^ k + n / 2 ^ k % 2
  else n / 2 ^ k + 1

theorem CutFrom.roundedMantissa {n k : Nat} {em : ExtendedMantissa} (h : CutFrom n k em) :
    em.roundedMantissa = nearest n k := by
  obtain ⟨mantissa, roundBit, stickyBit⟩ := em
  obtain ⟨rfl, hround, hsticky⟩ := h
  simp only at hround hsticky
  have hpos := Nat.two_pow_pos k
  unfold nearest
  cases roundBit <;> cases stickyBit <;>
    simp only [Bool.false_eq_true, false_iff, true_iff] at hround hsticky
  case false.false | false.true =>
    rw [if_pos (by omega)]
    rfl
  case true.false =>
    rw [if_neg (by omega), if_pos (by omega)]
    rfl
  case true.true =>
    rw [if_neg (by omega), if_neg hsticky.2]
    rfl

theorem nearest_bounds (n k : Nat) : n / 2 ^ k ≤ nearest n k ∧ nearest n k ≤ n / 2 ^ k + 1 := by
  unfold nearest
  split <;> [skip; split] <;> omega

/-- Zeros at the end of a number are cut off first. -/
theorem nearest_mul_two_pow (n j k : Nat) : nearest (n * 2 ^ j) (k + j) = nearest n k := by
  have hpos := Nat.two_pow_pos j
  have hmod : n * 2 ^ j % 2 ^ (k + j) = n % 2 ^ k * 2 ^ j := by
    rw [Nat.pow_add, Nat.mul_mod_mul_right]
  have hdiv : n * 2 ^ j / 2 ^ (k + j) = n / 2 ^ k := by
    rw [Nat.pow_add, Nat.mul_div_mul_right _ _ hpos]
  have hless : 2 * (n % 2 ^ k * 2 ^ j) < 2 ^ (k + j) ↔ 2 * (n % 2 ^ k) < 2 ^ k := by
    rw [Nat.pow_add, ← Nat.mul_assoc, Nat.mul_lt_mul_right hpos]
  have hsame : 2 * (n % 2 ^ k * 2 ^ j) = 2 ^ (k + j) ↔ 2 * (n % 2 ^ k) = 2 ^ k := by
    rw [Nat.pow_add, ← Nat.mul_assoc, Nat.mul_left_inj (Nat.pos_iff_ne_zero.mp hpos)]
  simp only [nearest, hmod, hdiv, hless, hsame]

end Cutting

section Rounding

/-- How many bits of a number of at least 53 bits do not fit in a mantissa. -/
def excess (n : Nat) : Nat := n.log2 - 52

variable {n : Nat}

theorem log2_eq_of_large (h : 2 ^ 52 ≤ n) : n.log2 = excess n + 52 := by
  have hlog : 52 ≤ n.log2 := (Nat.le_log2 (by omega)).mpr h
  rw [excess]
  omega

theorem div_excess_bounds (h : 2 ^ 52 ≤ n) :
    2 ^ 52 ≤ n / 2 ^ excess n ∧ n / 2 ^ excess n < 2 ^ 53 := by
  have hpos := Nat.two_pow_pos (excess n)
  obtain ⟨hlow, hhigh⟩ := (Nat.log2_eq_iff (by omega)).mp (log2_eq_of_large h)
  constructor
  · rw [Nat.le_div_iff_mul_le hpos, ← Nat.pow_add, Nat.add_comm]
    exact hlow
  · rw [Nat.div_lt_iff_lt_mul hpos, ← Nat.pow_add]
    exact hhigh.trans_eq (congrArg (2 ^ ·) (by omega))

theorem nearest_excess_bounds (h : 2 ^ 52 ≤ n) :
    2 ^ 52 ≤ nearest n (excess n) ∧ nearest n (excess n) ≤ 2 ^ 53 := by
  have hdiv := div_excess_bounds h
  have hnear := nearest_bounds n (excess n)
  omega

theorem log2_mul_two_pow (h : n ≠ 0) (j : Nat) : (n * 2 ^ j).log2 = n.log2 + j := by
  have hpos := Nat.two_pow_pos j
  obtain ⟨hlow, hhigh⟩ := (Nat.log2_eq_iff h).mp rfl
  rw [Nat.log2_eq_iff (Nat.mul_ne_zero h (Nat.pos_iff_ne_zero.mp hpos))]
  constructor
  · rw [Nat.pow_add]
    exact Nat.mul_le_mul_right _ hlow
  · rw [Nat.add_right_comm, Nat.pow_add]
    exact (Nat.mul_lt_mul_right hpos).mpr hhigh

theorem excess_mul_two_pow (h : 2 ^ 52 ≤ n) (j : Nat) : excess (n * 2 ^ j) = excess n + j := by
  have hlog := log2_eq_of_large h
  rw [excess, log2_mul_two_pow (by omega), hlog]
  omega

/-- A mantissa of at least 53 bits is cut to 53, if its exponent is not below all. -/
theorem shiftToTargetExponent_large (h : 2 ^ 52 ≤ n) {e : Int} (he : -1074 ≤ e) :
    shiftToTargetExponent Format.binary64 n e .exact =
      (ExtendedMantissa.ofMantissaAndAccuracy n .exact >>> excess n, e + excess n) := by
  have hlog := log2_eq_of_large h
  have hbits : (Format.binary64.mantissaBits : Int) = 53 := rfl
  have hmin : Format.binary64.minExponent = -1074 := rfl
  have htarget : Format.binary64.targetExponent (totalExponent n e) = e + excess n := by
    rw [Format.targetExponent, totalExponent, hbits, hmin, hlog]
    omega
  have hshift : (e + (excess n : Int) - e).toNat = excess n := by omega
  simp only [shiftToTargetExponent, shiftToExponent, htarget, hshift]

/-- A mantissa is rounded to 53 bits, and cut once more if it is rounded up to 54. -/
theorem roundWithAccuracy_large (h : 2 ^ 52 ≤ n) {e : Int} (he : -1074 ≤ e) (s : Sign) :
    ∃ mantissa hpos, roundWithAccuracy Format.binary64 s n e .exact =
      .finite s mantissa (e + excess n + excess (nearest n (excess n))) hpos := by
  have hrounded := nearest_excess_bounds h
  have hmantissa : (ExtendedMantissa.ofMantissaAndAccuracy n .exact >>> excess n).roundedMantissa =
      nearest n (excess n) := (CutFrom.shiftRight n (excess n)).roundedMantissa
  have hcut := (CutFrom.shiftRight (nearest n (excess n)) (excess (nearest n (excess n)))).mantissa
  have hlarge := (div_excess_bounds hrounded.1).1
  rw [← hcut] at hlarge
  have hpos : 0 < (ExtendedMantissa.ofMantissaAndAccuracy (nearest n (excess n)) .exact >>>
      excess (nearest n (excess n))).mantissa := Nat.lt_of_lt_of_le (Nat.two_pow_pos 52) hlarge
  refine ⟨_, hpos, ?_⟩
  simp only [roundWithAccuracy, shiftToTargetExponent_large h he, hmantissa,
    shiftToTargetExponent_large hrounded.1 (show -1074 ≤ e + excess n by omega)]
  exact dif_neg (Nat.pos_iff_ne_zero.mp hpos)

end Rounding

section Packing

/-- The bits of a float stand for a number just if those of its exponent are not all ones. -/
theorem isFinite_unpack (b : BitVec Format.binary64.numBits) :
    (unpack Format.binary64 b).isFinite ↔ @unpackExponent Format.binary64 b ≠ -1#_ := by
  unfold unpack
  dsimp only
  split
  case isTrue h =>
    split <;> simp only [UnpackedFloat.isFinite, Bool.false_eq_true, h, ne_eq, not_true_eq_false]
  case isFalse h =>
    split <;> [split; skip] <;> simp only [UnpackedFloat.isFinite, ne_eq, h, not_false_eq_true]

theorem isFinite_unpack_pack (s : Sign) (mantissa : Nat) (e : Int) (hpos : 0 < mantissa) :
    (unpack Format.binary64 (pack Format.binary64 (.finite s mantissa e hpos))).isFinite = true ↔
      e ≤ 971 := by
  have hbias : e + (Format.binary64.exponentBias : Int) +
      (Format.binary64.mantissaBitsWithoutImplicit : Int) = e + 1075 := by
    rw [Int.add_assoc]
    rfl
  have hbits : 2 ^ Format.binary64.exponentBits = 2048 := rfl
  have hones : (-1#_ : BitVec Format.binary64.exponentBits).toNat = 2047 := rfl
  rw [isFinite_unpack]
  simp only [pack, hbias, hbits]
  split
  case isTrue hover =>
    simp only [packedInfinity, unpackExponent_packComponents, ne_eq, not_true_eq_false, false_iff]
    omega
  case isFalse hover =>
    have hsmall : e ≤ 971 := by omega
    split <;> simp only [unpackExponent_packComponents, hsmall, iff_true, ne_eq, ← BitVec.toNat_inj]
    · rw [BitVec.toNat_ofNat, hbits, hones]
      omega
    · decide

theorem isFinite_neg (x : Float) : (-x).isFinite = x.isFinite := by
  change (unpack Format.binary64 (pack Format.binary64
    (unpack Format.binary64 x.toModel.toBits.toBitVec).neg)).isFinite =
    (unpack Format.binary64 x.toModel.toBits.toBitVec).isFinite
  cases hbits : unpack Format.binary64 x.toModel.toBits.toBitVec with
  | notANumber => decide
  | infinity s => cases s <;> decide
  | zero s => cases s <;> decide
  | finite s mantissa e hpos =>
    have hback := pack_unpack_of_valid x.toModel.valid
    rw [hbits] at hback
    rw [Bool.eq_iff_iff, UnpackedFloat.neg, isFinite_unpack_pack,
      ← isFinite_unpack_pack s mantissa e hpos, hback, hbits]

end Packing

section Range

variable {n : Nat}

theorem excess_nearest (h : 2 ^ 52 ≤ n) :
    excess (nearest n (excess n)) = if nearest n (excess n) = 2 ^ 53 then 1 else 0 := by
  have hbounds := nearest_excess_bounds h
  split
  case isTrue heq => rw [heq]; decide
  case isFalse hne =>
    have hlog : (nearest n (excess n)).log2 < 53 := (Nat.log2_lt (by omega)).mpr (by omega)
    rw [excess]
    omega

/-- A number with all bits set is rounded up to the next power of two from the middle on. -/
theorem nearest_eq_two_pow (h : 2 ^ 52 ≤ n) {k : Nat} (hk : excess n = k + 1) :
    nearest n (excess n) = 2 ^ 53 ↔ (2 ^ 54 - 1) * 2 ^ k ≤ n := by
  have hdiv := div_excess_bounds h
  have hsum := Nat.div_add_mod n (2 ^ excess n)
  have hrest := Nat.mod_lt n (Nat.two_pow_pos (excess n))
  have hup : nearest n (excess n) = 2 ^ 53 ↔
      n / 2 ^ excess n = 2 ^ 53 - 1 ∧ 2 ^ excess n ≤ 2 * (n % 2 ^ excess n) := by
    unfold nearest
    split <;> [skip; split] <;> omega
  have hpow : 2 ^ excess n = 2 * 2 ^ k := by rw [hk, Nat.pow_succ']
  rw [hup]
  by_cases htop : n / 2 ^ excess n = 2 ^ 53 - 1
  · rw [htop] at hsum
    omega
  · have hbelow : n < (2 ^ 53 - 1) * 2 ^ excess n := by
      rw [← Nat.div_lt_iff_lt_mul (Nat.two_pow_pos _)]
      omega
    omega

theorem rounded_exponent_le (h : 2 ^ 52 ≤ n) (k : Nat) :
    excess n + excess (nearest n (excess n)) ≤ k + 1 ↔ n < (2 ^ 54 - 1) * 2 ^ k := by
  obtain ⟨hlow, hhigh⟩ := (Nat.log2_eq_iff (by omega)).mp (log2_eq_of_large h)
  have hround := excess_nearest h
  have hone : excess (nearest n (excess n)) ≤ 1 := by rw [hround]; split <;> decide
  rcases Nat.lt_trichotomy (excess n) (k + 1) with hless | heq | hmore
  · have hn : n < 2 ^ 53 * 2 ^ k := by
      rw [← Nat.pow_add]
      exact hhigh.trans_le (Nat.pow_le_pow_right (by decide) (by omega))
    omega
  · have hup := nearest_eq_two_pow h heq
    rw [hround]
    split <;> omega
  · have hn : 2 ^ 54 * 2 ^ k ≤ n := by
      rw [← Nat.pow_add]
      exact Nat.le_trans (Nat.pow_le_pow_right (by decide) (by omega)) hlow
    omega

/-- The middle between the largest float and the power of two behind it. -/
def floatLimit : Nat := 2 ^ 1024 - 2 ^ 970

theorem floatLimit_eq : floatLimit = (2 ^ 54 - 1) * 2 ^ 970 := by decide +kernel

/-- A whole number is multiplied by a power of two to have bits enough before it is rounded. -/
theorem ofScientific_whole (h : n ≠ 0) :
    UnpackedFloat.ofScientific Format.binary64 n 0 =
      roundWithAccuracy Format.binary64 .positive (n * 2 ^ 53) (-53) .exact := by
  have hlarge : (2 : Int) ^ Format.binary64.exponentBits = 2048 := rfl
  rw [UnpackedFloat.ofScientific, dif_neg h, if_neg (by decide), if_neg (by omega),
    if_pos (by decide), mul, Nat.shiftLeft_eq]
  change roundWithAccuracy _ .positive (n * 2 ^ 53 * 1) (-53) .exact = _
  rw [Nat.mul_one]

/-- A whole number beyond the 53 bits of a mantissa has a finite float just below the limit. -/
theorem isFinite_ofScientific_large (h : 2 ^ 53 ≤ n) :
    (Float.ofScientific n false 0).isFinite = true ↔ n < floatLimit := by
  have hmodel : (Float.ofScientific n false 0).isFinite =
      (unpack Format.binary64 (pack Format.binary64
        (UnpackedFloat.ofScientific Format.binary64 n 0))).isFinite := by
    rw [Float.ofScientific, dif_neg (by omega)]
    rfl
  obtain ⟨mantissa, hpos, hround⟩ := roundWithAccuracy_large (n := n * 2 ^ 53) (by omega)
    (e := -53) (by omega) .positive
  have hexcess := excess_mul_two_pow (n := n) (by omega) 53
  rw [hexcess, nearest_mul_two_pow] at hround
  rw [hmodel, ofScientific_whole (by omega), hround, isFinite_unpack_pack, floatLimit_eq,
    ← rounded_exponent_le (by omega) 970]
  omega

/-- Numbers of more than 310 places, which are not converted, lie beyond the limit. -/
theorem Scientific.isFinite_toFloat_whole (h : 2 ^ 53 ≤ n) (negative : Bool) :
    (Scientific.toFloat ⟨negative, n, 0⟩).isFinite = true ↔ n < floatLimit := by
  have hsign : (Scientific.toFloat ⟨negative, n, 0⟩).isFinite =
      (Scientific.toFloat ⟨false, n, 0⟩).isFinite := by
    cases negative
    · rfl
    · exact isFinite_neg _
  have hplaces (hn : n < floatLimit) : (Nat.toDigits 10 n).length ≤ 310 :=
    (Nat.length_toDigits_le_iff (by decide) (by decide)).mpr (hn.trans (by decide +kernel))
  rw [hsign]
  simp only [Scientific.toFloat, if_neg (show n ≠ 0 by omega), Int.add_zero, Bool.false_eq_true,
    if_false, Int.lt_irrefl, decide_false, Int.natAbs_zero]
  split
  case isTrue hlong =>
    have hinfinite : (Float.ofBits 0x7FF0000000000000).isFinite = false := by decide
    rw [hinfinite]
    simp only [Bool.false_eq_true, false_iff]
    omega
  case isFalse hshort =>
    rw [if_neg (by omega)]
    exact isFinite_ofScientific_large h

end Range

end SettingsCheck
