import AlertRelay.Number.Binary64
import AlertRelay.Number.Literal
import AlertRelay.Score
import Mathlib

/-!
# Finite doubles

Whatever a number literal stands for is an integer of 64 bits or a finite double
(`Literal.sound_number?`): a product that overflows is refused, and a quotient by a power of ten is
not greater than what was divided. A score that is kept between zero and one is finite too.

A double is worked on unpacked into sign, significand and exponent. Rounding makes the exponent
only as great as the digits before it call for (`exponent_round`), and a double whose exponent is at
most 971 is finite (`isFinite_pack`).
-/

namespace AlertRelay

open Float.Model Float.Model.UnpackedFloat

namespace Binary64

/-- The bits of a double that hold its exponent. -/
def exponentBits (b : BitVec 64) : BitVec 11 := @unpackExponent Format.binary64 b

/-- Whether an unpacked double is zero, or has an exponent of at most `k`. -/
def ExponentAtMost (k : Int) : UnpackedFloat → Prop
  | .zero _ => True
  | .finite _ _ exponent _ => exponent ≤ k
  | _ => False

/-- Whether an unpacked double is zero or has the digits and the exponent of a finite one. -/
def Fits : UnpackedFloat → Prop
  | .zero _ => True
  | .finite _ mantissa exponent _ => mantissa < 2 ^ 53 ∧ exponent ≤ 971
  | _ => False

variable {x y : Float} {k : Int} {u v : UnpackedFloat}

theorem ExponentAtMost.mono {l : Int} (small : ExponentAtMost k u) (le : k ≤ l) :
    ExponentAtMost l u := by
  cases u with
  | zero s => trivial
  | finite s m e positive => exact Int.le_trans small le
  | infinity s | notANumber => exact small

/-- A double is finite if not all bits of its exponent are set. -/
theorem isFinite_iff : x.isFinite = true ↔ exponentBits x.toModel.toBits.toBitVec ≠ -1#11 := by
  change (UnpackedFloat.unpack Format.binary64 x.toModel.toBits.toBitVec).isFinite = true ↔ _
  unfold UnpackedFloat.unpack
  generalize x.toModel.toBits.toBitVec = b
  change (if exponentBits b = -1#11 then _ else if exponentBits b = 0#11 then _ else _ :
    UnpackedFloat).isFinite = true ↔ _
  by_cases full : exponentBits b = -1#11
  · rw [if_pos full]
    refine iff_of_false ?_ (not_not_intro full)
    split <;> exact Bool.false_ne_true
  · rw [if_neg full]
    refine iff_of_true ?_ full
    split
    · split <;> rfl
    · rfl

/-- An exponent with room above it is not the one of infinities. -/
theorem ofNat_ne_full {biased : Nat} (room : biased < 2047) : BitVec.ofNat 11 biased ≠ -1#11 := by
  intro full
  have same := congrArg BitVec.toNat full
  rw [BitVec.toNat_ofNat, Nat.mod_eq_of_lt (by omega)] at same
  change biased = 2047 at same
  omega

/-- What packs without overflow is finite. -/
theorem isFinite_pack (small : ExponentAtMost 971 u) :
    (Float.ofModel (.pack u)).isFinite = true := by
  rw [isFinite_iff]
  change unpackExponent (UnpackedFloat.pack Format.binary64 u) ≠ _
  cases u with
  | infinity s => exact small.elim
  | notANumber => exact small.elim
  | zero s =>
      rw [UnpackedFloat.pack, packedZero, unpackExponent_packComponents]
      decide
  | finite s m e positive =>
      have small : e ≤ 971 := small
      have biased : (e + Format.binary64.exponentBias +
          Format.binary64.mantissaBitsWithoutImplicit).toNat < 2047 := by
        change (e + (1023 : Nat) + (52 : Nat)).toNat < 2047
        omega
      have room : ¬ 2 ^ Format.binary64.exponentBits ≤ (e + Format.binary64.exponentBias +
          Format.binary64.mantissaBitsWithoutImplicit).toNat + 1 := by
        change ¬ 2048 ≤ _
        omega
      rw [UnpackedFloat.pack]
      simp only [if_neg room]
      split
      · rw [unpackExponent_packComponents]
        exact ofNat_ne_full biased
      · rw [unpackExponent_packComponents]
        decide

/-- The bits of a finite double hold no more than its format does. -/
theorem unpack_fits (finite : x.isFinite = true) : Fits x.toModel.unpack := by
  rw [isFinite_iff] at finite
  unfold Float.Model.unpack UnpackedFloat.unpack
  generalize x.toModel.toBits.toBitVec = b at finite
  have digits : (@unpackMantissa Format.binary64 b).toNat < 2 ^ 52 := BitVec.isLt _
  have room : (exponentBits b).toNat < 2047 := by
    have below := (exponentBits b).isLt
    have notFull : (exponentBits b).toNat ≠ 2047 := fun full =>
      finite (BitVec.eq_of_toNat_eq full)
    omega
  change Fits (if exponentBits b = -1#11 then _ else if exponentBits b = 0#11 then _ else _)
  rw [if_neg finite]
  by_cases subnormal : exponentBits b = 0#11
  · rw [if_pos subnormal]
    split
    · trivial
    · refine ⟨Nat.lt_trans digits (by decide), ?_⟩
      change ((exponentBits b).toNat : Int) - ((1023 : Nat) + (52 : Nat)) + 1 ≤ 971
      rw [subnormal]
      decide
  · rw [if_neg subnormal]
    refine ⟨BitVec.isLt _, ?_⟩
    change ((exponentBits b).toNat : Int) - ((1023 : Nat) + (52 : Nat)) ≤ 971
    omega

/-! ## Rounding -/

/-- A double has 53 bits, and its exponent is not less than that of the least one. -/
theorem targetExponent_eq (total : Int) :
    Format.binary64.targetExponent total = max (total - 53) (-1074) := rfl

theorem mantissa_shiftRight (em : ExtendedMantissa) (n : Nat) :
    (em >>> n).mantissa = em.mantissa / 2 ^ n := by
  change (Nat.repeat ExtendedMantissa.shiftRightOne n em).mantissa = _
  induction n with
  | zero => exact (Nat.div_one _).symm
  | succ n ih =>
      change (Nat.repeat ExtendedMantissa.shiftRightOne n em).mantissa / 2 = _
      rw [ih, Nat.div_div_eq_div_mul, Nat.pow_succ]

/-- Rounding adds one at most. -/
theorem roundedMantissa_le (em : ExtendedMantissa) : em.roundedMantissa ≤ em.mantissa + 1 := by
  unfold ExtendedMantissa.roundedMantissa Accuracy.roundToNearestEven
  split <;> omega

theorem mantissa_ofMantissaAndAccuracy (m : Nat) (accuracy : Accuracy) :
    (ExtendedMantissa.ofMantissaAndAccuracy m accuracy).mantissa = m := by
  unfold ExtendedMantissa.ofMantissaAndAccuracy
  split <;> rfl

/-- A quotient has no more binary digits than are left of the dividend. -/
theorem div_lt_two_pow {m n : Nat} {l k : Nat} (dividend : m < 2 ^ l) (divisor : 2 ^ k ≤ n) :
    m / n < 2 ^ (l - k) := by
  refine Nat.div_lt_of_lt_mul (Nat.lt_of_lt_of_le dividend ?_)
  calc
    2 ^ l ≤ 2 ^ (k + (l - k)) := Nat.pow_le_pow_right (by decide) (by omega)
    _ = 2 ^ k * 2 ^ (l - k) := Nat.pow_add ..
    _ ≤ n * 2 ^ (l - k) := Nat.mul_le_mul_right _ divisor

/-- A significand that is made shorter and rounded. -/
theorem totalExponent_rounded {m n rounded : Nat} {e : Int} (le : rounded ≤ m / 2 ^ n + 1) :
    totalExponent rounded (e + n) ≤ max (totalExponent m e + 1) (e + n + 1) := by
  unfold Float.Model.totalExponent
  have bound : rounded.log2 ≤ m.log2 + 1 - n := by
    by_cases zero : rounded = 0
    · rw [zero]
      exact Nat.zero_le _
    · refine Nat.le_of_lt_succ ((Nat.log2_lt zero).mpr (Nat.lt_of_le_of_lt le ?_))
      have shorter : m / 2 ^ n < 2 ^ (m.log2 + 1 - n) :=
        div_lt_two_pow Nat.lt_log2_self (Nat.le_refl _)
      rw [Nat.pow_succ]
      omega
  omega

theorem exponentAtMost_dite {s : Sign} {m : Nat} {e : Int} (small : e ≤ k)
    (positive : ¬ m = 0 → 0 < m) :
    ExponentAtMost k (if zero : m = 0 then .zero s else .finite s m e (positive zero)) := by
  split
  · trivial
  · exact small

/-- Rounding makes the exponent only as great as the digits before it call for. -/
theorem exponent_round (s : Sign) (m : Nat) (e : Int) (accuracy : Accuracy) :
    ExponentAtMost (max e (max (totalExponent m e - 52) (-1074)))
      (roundWithAccuracy Format.binary64 s m e accuracy) := by
  unfold UnpackedFloat.roundWithAccuracy UnpackedFloat.shiftToTargetExponent
    UnpackedFloat.shiftToExponent
  simp only [targetExponent_eq]
  refine exponentAtMost_dite ?_ _
  generalize shift : (max (totalExponent m e - 53) (-1074) - e).toNat = n
  have small : (ExtendedMantissa.ofMantissaAndAccuracy m accuracy >>> n).roundedMantissa ≤
      m / 2 ^ n + 1 := by
    have rounded := roundedMantissa_le (ExtendedMantissa.ofMantissaAndAccuracy m accuracy >>> n)
    rw [mantissa_shiftRight, mantissa_ofMantissaAndAccuracy] at rounded
    exact rounded
  have total := totalExponent_rounded (e := e) small
  omega

/-! ## Operations -/

/-- A significand that was made longer has the same digits before the point. -/
theorem totalExponent_shiftLeft_le (m n : Nat) (e : Int) :
    totalExponent (m <<< n) (e - n) ≤ max (totalExponent m e) (e - n + 1) := by
  unfold Float.Model.totalExponent
  have bound : (m <<< n).log2 ≤ m.log2 + n := by
    by_cases zero : m <<< n = 0
    · rw [zero]
      exact Nat.zero_le _
    · refine Nat.le_of_lt_succ ((Nat.log2_lt zero).mpr ?_)
      rw [Nat.shiftLeft_eq, ← Nat.succ_add, Nat.pow_add]
      exact Nat.mul_lt_mul_of_pos_right Nat.lt_log2_self (Nat.two_pow_pos n)
  omega

/-- A word is rounded to a double with an exponent in range. -/
theorem exponent_roundNat (s : Sign) (m : Nat) (small : m < 2 ^ 64) :
    ExponentAtMost 971 (UnpackedFloat.round Format.binary64 s m 0) := by
  unfold UnpackedFloat.round decreaseExponent
  simp only []
  generalize (0 - Format.binary64.targetExponent (totalExponent m 0)).toNat = n
  apply (exponent_round s (m <<< n) (0 - n) .exact).mono
  have total := totalExponent_shiftLeft_le m n 0
  have short : totalExponent m 0 ≤ 64 := by
    unfold Float.Model.totalExponent
    by_cases zero : m = 0
    · rw [zero]
      decide
    · have := (Nat.log2_lt zero).mpr small
      omega
  omega

/-- A number of 64 bits is finite as a double. -/
theorem isFinite_nearestDouble (n : Nat) : (nearestDouble n).isFinite = true := by
  apply isFinite_pack
  change ExponentAtMost 971 (UnpackedFloat.normalize Format.binary64 (UInt64.ofNat n).toNat 0 _)
  have small := (UInt64.ofNat n).toNat_lt
  generalize (UInt64.ofNat n).toNat = m at small
  unfold UnpackedFloat.normalize
  split
  · exact exponent_roundNat _ _ (by omega)
  · trivial
  · exact exponent_roundNat _ _ (by omega)

/-- Whether an unpacked double is at least eight. -/
def AtLeastEight : UnpackedFloat → Bool
  | .finite _ mantissa exponent _ => 4 ≤ totalExponent mantissa exponent
  | _ => false

/-- A quotient is no longer than the difference of the lengths. -/
theorem log2_quotient_le (m n l : Nat) (positive : 0 < n) :
    ((m <<< l) / n).log2 ≤ m.log2 + l - n.log2 := by
  by_cases zero : (m <<< l) / n = 0
  · rw [zero]
    exact Nat.zero_le _
  · have dividend : m <<< l < 2 ^ (m.log2 + 1 + l) := by
      rw [Nat.shiftLeft_eq, Nat.pow_add]
      exact Nat.mul_lt_mul_of_pos_right Nat.lt_log2_self (Nat.two_pow_pos l)
    have quotient := div_lt_two_pow dividend (Nat.log2_self_le (Nat.ne_of_gt positive))
    have short := (Nat.log2_lt zero).mpr quotient
    omega

/-- A quotient by something that is at least eight is finite. -/
theorem isFinite_div (finite : x.isFinite = true)
    (large : AtLeastEight y.toModel.unpack = true) : (x / y).isFinite = true := by
  apply isFinite_pack
  have fits := unpack_fits finite
  change ExponentAtMost 971 (UnpackedFloat.div Format.binary64 x.toModel.unpack y.toModel.unpack)
  generalize x.toModel.unpack = u at fits
  generalize y.toModel.unpack = v at large
  cases v with
  | zero | infinity | notANumber => cases large
  | finite s₂ m₂ e₂ positive =>
      have large : 4 ≤ totalExponent m₂ e₂ := of_decide_eq_true large
      cases u with
      | infinity | notANumber => exact fits.elim
      | zero => trivial
      | finite s₁ m₁ e₁ _ =>
          obtain ⟨digits, small⟩ := fits
          apply (exponent_round ..).mono
          have quotient := log2_quotient_le m₁ m₂ (e₁ - e₂ - min (e₁ - e₂)
            (Format.binary64.targetExponent (totalExponent m₁ e₁ - totalExponent m₂ e₂))).toNat
            positive
          have short : m₁.log2 ≤ 52 := by
            by_cases zero : m₁ = 0
            · rw [zero]
              decide
            · exact Nat.le_of_lt_succ ((Nat.log2_lt zero).mpr digits)
          simp only [targetExponent_eq, Float.Model.totalExponent] at quotient large ⊢
          omega

/-- The negative of a finite double is finite. -/
theorem isFinite_neg (finite : x.isFinite = true) : (-x).isFinite = true := by
  apply isFinite_pack
  have fits := unpack_fits finite
  change ExponentAtMost 971 x.toModel.unpack.neg
  generalize x.toModel.unpack = u at fits
  cases u with
  | infinity | notANumber => exact fits.elim
  | zero => trivial
  | finite s m e positive => exact fits.2

/-- What packs as an infinity is unpacked as one. -/
theorem isInf_pack_of_lt {s : Sign} {m : Nat} {e : Int} {positive : 0 < m} (great : 971 < e) :
    (Float.ofModel (.pack (.finite s m e positive))).isInf = true := by
  have full : 2 ^ Format.binary64.exponentBits ≤ (e + Format.binary64.exponentBias +
      Format.binary64.mantissaBitsWithoutImplicit).toNat + 1 := by
    change 2048 ≤ (e + (1023 : Nat) + (52 : Nat)).toNat + 1
    omega
  change (UnpackedFloat.unpack Format.binary64
    (UnpackedFloat.pack Format.binary64 (.finite s m e positive))).isInf = true
  unfold UnpackedFloat.pack
  simp only [if_pos full]
  cases s <;> rfl

/-- What is packed from a number and is not infinite is finite. -/
theorem isFinite_pack_of_not_isInf (number : ExponentAtMost k u)
    (fits : (Float.ofModel (.pack u)).isInf = false) :
    (Float.ofModel (.pack u)).isFinite = true := by
  cases u with
  | infinity | notANumber => exact number.elim
  | zero s => exact isFinite_pack trivial
  | finite s m e positive =>
      by_cases small : e ≤ 971
      · exact isFinite_pack small
      · rw [isInf_pack_of_lt (Int.not_le.mp small)] at fits
        cases fits

/-- A product of finite doubles that does not overflow is finite. -/
theorem isFinite_mul (left : x.isFinite = true) (right : y.isFinite = true)
    (fits : (x * y).isInf = false) : (x * y).isFinite = true := by
  have fitsLeft := unpack_fits left
  have fitsRight := unpack_fits right
  change (Float.ofModel (.pack (UnpackedFloat.mul _ x.toModel.unpack _))).isInf = false at fits
  change (Float.ofModel (.pack (UnpackedFloat.mul _ x.toModel.unpack _))).isFinite = true
  generalize x.toModel.unpack = u at fitsLeft fits
  generalize y.toModel.unpack = v at fitsRight fits
  cases u with
  | infinity | notANumber => exact fitsLeft.elim
  | zero =>
      cases v with
      | infinity | notANumber => exact fitsRight.elim
      | zero | finite => exact isFinite_pack trivial
  | finite =>
      cases v with
      | infinity | notANumber => exact fitsRight.elim
      | zero => exact isFinite_pack trivial
      | finite => exact isFinite_pack_of_not_isInf (exponent_round ..) fits

/-- The powers of ten that are tabulated are at least eight. -/
theorem atLeastEight_powerOfTen :
    ∀ n < 309, 0 < n → AtLeastEight (powerOfTen n).toModel.unpack = true := by
  decide +kernel

/-- What is at least eight as a number is finite. -/
theorem isFinite_of_atLeastEight (large : AtLeastEight x.toModel.unpack = true) :
    x.isFinite = true := by
  change x.toModel.unpack.isFinite = true
  generalize x.toModel.unpack = u at large
  cases u with
  | zero | finite => rfl
  | infinity | notANumber => cases large

/-- The powers of ten that are tabulated are finite. -/
theorem isFinite_powerOfTen {n : Nat} (small : n ≤ 308) : (powerOfTen n).isFinite = true := by
  by_cases one : n = 0
  · rw [one]
    decide +kernel
  · exact isFinite_of_atLeastEight
      (atLeastEight_powerOfTen n (Nat.lt_succ_of_le small) (Nat.pos_of_ne_zero one))

theorem isFinite_zero : (0.0 : Float).isFinite = true := by
  decide +kernel

end Binary64

/-! ## Literals -/

/-- Whether an integer has at most 64 bits, or a double is finite. -/
def Number.Sound : Number → Prop
  | .integer i => -0x8000000000000000 ≤ i ∧ i ≤ maxWord
  | .real x => x.isFinite = true

namespace Literal

open Binary64

variable {value scaled : Float} {steps significand : Nat} {exponent : Int} {negative : Bool}
  {n : Number} {l : Literal}

/-- A finite double that is divided by a power of ten stays finite. -/
theorem isFinite_divPowerOfTen (finite : value.isFinite = true) {n : Nat} (positive : 0 < n)
    (small : n ≤ 308) : (value / powerOfTen n).isFinite = true :=
  isFinite_div finite (atLeastEight_powerOfTen n (Nat.lt_succ_of_le small) positive)

/-- What is scaled without overflow is finite. -/
theorem isFinite_scale (finite : value.isFinite = true)
    (result : scale steps value exponent = some scaled) : scaled.isFinite = true := by
  fun_induction Literal.scale steps value exponent with
  | case1 | case4 => cases result
  | case2 steps value exponent up small product fits =>
      rw [← Option.some.inj result]
      exact isFinite_mul finite (isFinite_powerOfTen (by omega)) (eq_false_of_ne_true fits)
  | case3 | case6 =>
      cases result
      exact finite
  | case5 steps value exponent down small =>
      cases result
      exact isFinite_divPowerOfTen finite (by omega) (by omega)
  | case7 =>
      cases result
      exact isFinite_divPowerOfTen finite (by decide) (Nat.le_refl _)
  | case8 value exponent down great other steps ih =>
      exact ih (isFinite_divPowerOfTen finite (by decide) (Nat.le_refl _)) result

/-- A double that a literal stands for is finite. -/
theorem sound_toReal (result : toReal negative significand exponent = some n) : n.Sound := by
  obtain ⟨scaled, known, rfl⟩ := Option.map_eq_some_iff.mp result
  have finite := isFinite_scale (isFinite_nearestDouble significand) known
  cases negative with
  | false => exact finite
  | true => exact isFinite_neg finite

/-- The digits that are absorbed fit a word. -/
theorem absorb_le (small : significand ≤ maxWord) (ds : List Nat) :
    (absorb significand ds).1 ≤ maxWord := by
  fun_induction absorb significand ds with
  | case1 | case3 => exact small
  | case2 significand d rest fits ih => exact ih fits

/-- An integer that a literal stands for has 64 bits. -/
theorem sound_toInteger (small : significand ≤ maxWord) :
    (toInteger negative significand).Sound := by
  unfold toInteger
  split
  · exact ⟨by omega, Int.ofNat_le.mpr small⟩
  · split
    · exact isFinite_neg (isFinite_nearestDouble significand)
    · refine ⟨by omega, ?_⟩
      unfold maxWord
      omega

/-- The integer that a literal stands for has at most 64 bits, and the double is finite. -/
theorem sound_number? (result : l.number? = some n) : n.Sound := by
  have small := absorb_le (Nat.zero_le maxWord) l.whole
  unfold number? at result
  generalize absorb 0 l.whole = absorbed at small result
  obtain ⟨significand, dropped⟩ := absorbed
  dsimp only at small result
  split at result
  · split at result
    · cases result
      exact sound_toInteger small
    · exact sound_toReal result
  · split at result
    · exact sound_toReal result
    · split at result
      · exact sound_toReal result
      · split at result
        · cases result
        · cases result
          cases l.negative with
          | false => exact isFinite_zero
          | true => exact isFinite_neg isFinite_zero

end Literal

/-! ## Scores -/

theorem lt_iff_unpack (x y : Float) :
    x < y ↔ UnpackedFloat.lt x.toModel.unpack y.toModel.unpack = true := by
  change decide (x.toModel < y.toModel) = true ↔ _
  rw [decide_eq_true_iff]
  rfl

/-- What is a number and lies between zero and one is finite. -/
theorem isFinite_of_bounded {x : Float} (number : ¬ x.isNaN = true) (above : ¬ x < 0.0)
    (below : ¬ 1.0 < x) : x.isFinite = true := by
  have zero : (0.0 : Float).toModel.unpack = .zero .positive := rfl
  have one : (1.0 : Float).toModel.unpack = .finite .positive (2 ^ 52) (-52) (by decide) := rfl
  rw [lt_iff_unpack, zero] at above
  rw [lt_iff_unpack, one] at below
  change ¬ x.toModel.unpack.isNaN = true at number
  change x.toModel.unpack.isFinite = true
  generalize x.toModel.unpack = u at number above below
  cases u with
  | zero | finite => rfl
  | notANumber => exact absurd rfl number
  | infinity s =>
      cases s with
      | positive => exact absurd rfl below
      | negative => exact absurd rfl above

namespace Score

/-- What is clamped to the unit interval is finite. -/
theorem isFinite_clampUnit (x : Float) : (clampUnit x).isFinite = true := by
  unfold clampUnit
  split
  · decide +kernel
  · split
    · decide +kernel
    · split
      · decide +kernel
      · next number above below => exact isFinite_of_bounded number above below

end Score

end AlertRelay
