/-
Whole numbers as floats.

A whole number below `2^53` is a float as it is; a larger one is rounded, and may become
infinite. What is proved about both is that the order is kept beside a number that is not
rounded, so that a bound which is such a number can be asked of an integer before or after
it has become a float (`ofNat_le_ofInt_iff`, `ofInt_lt_ofNat_iff`).

A float other than zero has a significand of 53 binary digits, the first of them a one, and
a power of two (`IsNormal`). Rounding a significand that is too long gives one that is
(`exists_roundWithAccuracy`), and gives the same number back if all that is cut off is
zeros (`roundWithAccuracy_scaled`). Packing into bits and unpacking again changes nothing
unless the power of two is too large (`unpack_pack`). Two such floats compare as their
powers of two do, and if these are equal as their significands do.
-/
import Mathlib

set_option autoImplicit false

namespace MonitorControl

open Float.Model Float.Model.UnpackedFloat

/-! ## Significands -/

theorem log2_mul_two_pow {n : Nat} (hne : n ≠ 0) (k : Nat) : (n * 2 ^ k).log2 = n.log2 + k := by
  induction k with
  | zero => rw [Nat.pow_zero, Nat.mul_one, Nat.add_zero]
  | succ k ih =>
    have hne' : n * 2 ^ k ≠ 0 := Nat.mul_ne_zero hne (Nat.two_pow_pos k).ne'
    rw [Nat.pow_succ, ← Nat.mul_assoc, Nat.mul_comm _ 2, Nat.log2_two_mul hne', ih]
    rfl

/-- **A significand of full length**, and an exponent that is not too small for it. -/
structure IsNormal (m : Nat) (e : Int) : Prop where
  low : 2 ^ 52 ≤ m
  high : m < 2 ^ 53
  least : -1074 ≤ e

namespace IsNormal

variable {m : Nat} {e : Int}

theorem pos (h : IsNormal m e) : 0 < m := Nat.lt_of_lt_of_le (by decide) h.low

theorem log2_eq (h : IsNormal m e) : m.log2 = 52 :=
  (Nat.log2_eq_iff (Nat.ne_of_gt h.pos)).2 ⟨h.low, h.high⟩

/-- Digits more than 53 are counted by the length. -/
theorem log2_mul (h : IsNormal m e) (k : Nat) : (m * 2 ^ k).log2 = 52 + k := by
  rw [log2_mul_two_pow (Nat.ne_of_gt h.pos), h.log2_eq]

/-- **A significand of full length keeps its exponent.** -/
theorem targetExponent_eq (h : IsNormal m e) (k : Nat) :
    Format.binary64.targetExponent (totalExponent (m * 2 ^ k) (e - k)) = e := by
  have hleast := h.least
  simp only [Format.targetExponent, totalExponent, h.log2_mul k, Format.mantissaBits,
    Format.minExponent]
  omega

end IsNormal

/-! ## Rounding -/

theorem mantissa_shiftRight (em : ExtendedMantissa) (k : Nat) :
    (em >>> k).mantissa = em.mantissa / 2 ^ k := by
  induction k with
  | zero => exact (Nat.div_one _).symm
  | succ k ih =>
    show (em >>> k).mantissa / 2 = _
    rw [ih, Nat.div_div_eq_div_mul, Nat.pow_succ]

/-- **Zeros are cut off without a trace.** -/
theorem shiftRight_exact (m k : Nat) :
    ExtendedMantissa.ofMantissaAndAccuracy (m * 2 ^ k) .exact >>> k =
      ExtendedMantissa.ofMantissaAndAccuracy m .exact := by
  induction k generalizing m with
  | zero =>
    rw [Nat.pow_zero, Nat.mul_one]
    rfl
  | succ k ih =>
    show (ExtendedMantissa.ofMantissaAndAccuracy (m * 2 ^ (k + 1)) .exact >>> k).shiftRightOne = _
    rw [show m * 2 ^ (k + 1) = m * 2 * 2 ^ k by ring, ih]
    simp [ExtendedMantissa.shiftRightOne, ExtendedMantissa.ofMantissaAndAccuracy]

/-- Rounding goes up by one at most. -/
theorem roundedMantissa_cases (em : ExtendedMantissa) :
    em.roundedMantissa = em.mantissa ∨ em.roundedMantissa = em.mantissa + 1 := by
  obtain ⟨m, roundBit, stickyBit⟩ := em
  cases roundBit <;> cases stickyBit <;>
    simp [ExtendedMantissa.roundedMantissa, ExtendedMantissa.accuracy,
      Accuracy.roundToNearestEven]
  omega

/-- A significand of full length that is followed by zeros is shifted to itself. -/
theorem shiftToTargetExponent_scaled {m : Nat} {e : Int} (h : IsNormal m e) (k : Nat) :
    shiftToTargetExponent Format.binary64 (m * 2 ^ k) (e - k) .exact =
      (ExtendedMantissa.ofMantissaAndAccuracy m .exact, e) := by
  have hshift : (e - (e - (k : Int))).toNat = k := by omega
  simp only [shiftToTargetExponent, h.targetExponent_eq k, shiftToExponent, hshift,
    shiftRight_exact, Int.sub_add_cancel]

/-- **What rounding comes to**: after the significand has been cut and rounded, zeros are all that
may be cut off once more. -/
theorem roundWithAccuracy_eq {m long : Nat} {e start : Int} {em : ExtendedMantissa} {k : Nat}
    (h : IsNormal m e) (sign : Sign)
    (hcut : shiftToTargetExponent Format.binary64 long start .exact = (em, e - k))
    (hrounded : em.roundedMantissa = m * 2 ^ k) :
    roundWithAccuracy Format.binary64 sign long start .exact = .finite sign m e h.pos := by
  simp only [roundWithAccuracy, hcut, hrounded, shiftToTargetExponent_scaled h k]
  exact dif_neg (Nat.ne_of_gt h.pos)

/-- **Rounding a number that fits** gives that number. -/
theorem roundWithAccuracy_scaled {m : Nat} {e : Int} (h : IsNormal m e) (sign : Sign) (k : Nat) :
    roundWithAccuracy Format.binary64 sign (m * 2 ^ k) (e - k) .exact =
      .finite sign m e h.pos := by
  apply roundWithAccuracy_eq (k := 0) h sign
  · rw [shiftToTargetExponent_scaled h k, Int.natCast_zero, Int.sub_zero]
  · rw [Nat.pow_zero, Nat.mul_one]
    rfl

/-- **Rounding a number that is too long** gives a significand of full length. Where it is rounded up
to a power of two, the exponent is one more. -/
theorem exists_roundWithAccuracy {long : Nat} {start : Int} (sign : Sign) (hlong : 52 ≤ long.log2)
    (hleast : -1074 ≤ (long.log2 : Int) + start - 52) :
    ∃ (m : Nat) (e : Int) (h : IsNormal m e), (long.log2 : Int) + start - 52 ≤ e ∧
      roundWithAccuracy Format.binary64 sign long start .exact = .finite sign m e h.pos := by
  obtain ⟨k, hk⟩ : ∃ k, long.log2 = 52 + k := ⟨long.log2 - 52, by omega⟩
  have hpos : long ≠ 0 := by
    rintro rfl
    simp at hlong
  obtain ⟨hlow, hhigh⟩ := (Nat.log2_eq_iff hpos).1 hk
  rw [Nat.pow_add] at hlow
  rw [Nat.add_right_comm, Nat.pow_add] at hhigh
  have htarget : Format.binary64.targetExponent (totalExponent long start) = start + k := by
    simp only [Format.targetExponent, totalExponent, hk, Format.mantissaBits, Format.minExponent]
    omega
  have hshift : (start + (k : Int) - start).toNat = k := by omega
  generalize hem : ExtendedMantissa.ofMantissaAndAccuracy long .exact >>> k = em
  have hcut : shiftToTargetExponent Format.binary64 long start .exact = (em, start + k) := by
    simp only [shiftToTargetExponent, htarget, shiftToExponent, hshift, hem]
  have hmantissa : em.mantissa = long / 2 ^ k := by
    rw [← hem, mantissa_shiftRight]
    rfl
  have hlow' : 2 ^ 52 ≤ em.mantissa := by
    rw [hmantissa, Nat.le_div_iff_mul_le (Nat.two_pow_pos k)]
    exact hlow
  have hhigh' : em.mantissa < 2 ^ 53 := by
    rw [hmantissa, Nat.div_lt_iff_lt_mul (Nat.two_pow_pos k)]
    exact hhigh
  have hrounded := roundedMantissa_cases em
  by_cases hcarry : em.roundedMantissa < 2 ^ 53
  · have hnormal : IsNormal em.roundedMantissa (start + k) :=
      ⟨by omega, hcarry, by omega⟩
    have hcut' : shiftToTargetExponent Format.binary64 long start .exact =
        (em, start + k - (0 : Nat)) := by rw [hcut, Int.natCast_zero, Int.sub_zero]
    refine ⟨_, _, hnormal, by omega, roundWithAccuracy_eq hnormal sign hcut' ?_⟩
    rw [Nat.pow_zero, Nat.mul_one]
  · have hnormal : IsNormal (2 ^ 52) (start + k + 1) := ⟨by decide, by decide, by omega⟩
    have hcut' : shiftToTargetExponent Format.binary64 long start .exact =
        (em, start + k + 1 - (1 : Nat)) := by rw [hcut, Int.natCast_one, Int.add_sub_cancel]
    refine ⟨_, _, hnormal, by omega, roundWithAccuracy_eq hnormal sign hcut' ?_⟩
    omega

/-! ## Packing -/

theorem unpackSign_packComponents (sign : Sign) (exponent : BitVec 11) (mantissa : BitVec 52) :
    unpackSign (packComponents Format.binary64 sign exponent mantissa) = sign.toBitVec := by
  show (sign.toBitVec ++ exponent ++ mantissa).extractLsb' 63 1 = sign.toBitVec
  rw [BitVec.extractLsb'_append_eq_of_le (by decide), BitVec.extractLsb'_append_eq_of_le (by decide)]
  cases sign <;> rfl

theorem ofBitVec_toBitVec (sign : Sign) : Sign.ofBitVec sign.toBitVec = sign := by
  cases sign <;> rfl

/-- The first digit of a significand is not stored. -/
theorem toNat_one_append {m : Nat} {e : Int} (h : IsNormal m e) :
    (1#1 ++ BitVec.ofNat 52 m).toNat = m := by
  have hlow := h.low
  have hhigh := h.high
  rw [BitVec.toNat_append, BitVec.toNat_ofNat, BitVec.toNat_ofNat, Nat.shiftLeft_eq, Nat.or_comm,
    Nat.one_mod_two_pow_eq_one.2 (by decide), Nat.one_mul,
    Nat.or_two_pow_eq_add_of_lt (Nat.mod_lt m (Nat.two_pow_pos 52))]
  omega

/-- **Packing and unpacking** gives a float back, unless its exponent is too large; then it is
infinite. -/
theorem unpack_pack {m : Nat} {e : Int} (h : IsNormal m e) (sign : Sign) :
    (Float.Model.pack (.finite sign m e h.pos)).unpack =
      if e ≤ 971 then .finite sign m e h.pos else .infinity sign := by
  have hleast := h.least
  have hbias : (e + Format.binary64.exponentBias + Format.binary64.mantissaBitsWithoutImplicit).toNat =
      (e + 1075).toNat := by
    show (e + 1023 + 52).toNat = _
    omega
  show UnpackedFloat.unpack Format.binary64
    (UnpackedFloat.pack Format.binary64 (.finite sign m e h.pos)) = _
  simp only [UnpackedFloat.pack, hbias, h.log2_eq]
  by_cases he : e ≤ 971
  · obtain ⟨biased, hbiased, hone, hlast⟩ : ∃ biased : Nat, (e + 1075).toNat = biased ∧ 1 ≤ biased ∧
        biased < 2047 := ⟨(e + 1075).toNat, rfl, by omega, by omega⟩
    rw [hbiased, if_neg (show ¬ 2 ^ 11 ≤ biased + 1 by omega),
      if_pos (show 52 + 1 = Format.binary64.mantissaBits from rfl), if_pos he]
    have hfield : (BitVec.ofNat 11 biased).toNat = biased := by
      rw [BitVec.toNat_ofNat]
      omega
    have hfull : BitVec.ofNat 11 biased ≠ -1#11 := by
      intro heq
      rw [heq] at hfield
      exact absurd hfield.symm (Nat.ne_of_lt hlast)
    have hnone : BitVec.ofNat 11 biased ≠ 0#11 := by
      intro heq
      rw [heq] at hfield
      exact absurd hfield (Nat.ne_of_lt hone)
    simp only [UnpackedFloat.unpack, unpackMantissa_packComponents, unpackExponent_packComponents,
      unpackSign_packComponents, ofBitVec_toBitVec, if_neg hfull, if_neg hnone, hfield,
      toNat_one_append h]
    congr 1
    show (biased : Int) - (1023 + 52) = e
    omega
  · rw [if_pos (show 2 ^ 11 ≤ (e + 1075).toNat + 1 by omega), if_neg he]
    simp only [packedInfinity, UnpackedFloat.unpack, unpackMantissa_packComponents,
      unpackExponent_packComponents, unpackSign_packComponents, ofBitVec_toBitVec, if_true]
    rfl

/-! ## Whole numbers -/

section

variable {n : Nat}

theorem log2_le (hpos : 0 < n) (hlt : n < 2 ^ 53) : n.log2 ≤ 52 :=
  Nat.lt_succ_iff.1 ((Nat.log2_lt (Nat.ne_of_gt hpos)).2 hlt)

theorem isNormal_of_lt (hpos : 0 < n) (hlt : n < 2 ^ 53) :
    IsNormal (n * 2 ^ (52 - n.log2)) ((n.log2 : Int) - 52) := by
  have hlog := log2_le hpos hlt
  refine ⟨?_, ?_, by omega⟩
  · calc 2 ^ 52 = 2 ^ n.log2 * 2 ^ (52 - n.log2) := by rw [← Nat.pow_add]; congr 1; omega
      _ ≤ n * 2 ^ (52 - n.log2) :=
        Nat.mul_le_mul_right _ (Nat.log2_self_le (Nat.ne_of_gt hpos))
  · calc n * 2 ^ (52 - n.log2) < 2 ^ (n.log2 + 1) * 2 ^ (52 - n.log2) :=
        Nat.mul_lt_mul_of_pos_right Nat.lt_log2_self (Nat.two_pow_pos _)
      _ = 2 ^ 53 := by rw [← Nat.pow_add]; congr 1; omega

/-- **A number that is not rounded**, its significand filled up with zeros. -/
def unrounded (hpos : 0 < n) (hlt : n < 2 ^ 53) : UnpackedFloat :=
  .finite .positive (n * 2 ^ (52 - n.log2)) ((n.log2 : Int) - 52) (isNormal_of_lt hpos hlt).pos

theorem unpack_pack_unrounded (hpos : 0 < n) (hlt : n < 2 ^ 53) :
    (Float.Model.pack (unrounded hpos hlt)).unpack = unrounded hpos hlt := by
  have hlog := log2_le hpos hlt
  rw [unrounded, unpack_pack (isNormal_of_lt hpos hlt), if_pos (by omega)]

/-- A number of 64 bits becomes a float by shifting it as far as its significand has room. -/
theorem round_of_lt (hpos : 0 < n) (hlt : n < 2 ^ 53) :
    UnpackedFloat.round Format.binary64 .positive n 0 = unrounded hpos hlt := by
  have hlog := log2_le hpos hlt
  have htarget : Format.binary64.targetExponent (totalExponent n 0) = (n.log2 : Int) - 52 := by
    simp only [Format.targetExponent, totalExponent, Format.mantissaBits, Format.minExponent]
    omega
  have hshift : (0 - ((n.log2 : Int) - 52)).toNat = 52 - n.log2 := by omega
  have hexponent : 0 - ((52 - n.log2 : Nat) : Int) = (n.log2 : Int) - 52 := by omega
  have hround := roundWithAccuracy_scaled (isNormal_of_lt hpos hlt) .positive 0
  rw [Nat.pow_zero, Nat.mul_one, Int.natCast_zero, Int.sub_zero] at hround
  simp only [UnpackedFloat.round, htarget, decreaseExponent, hshift, hexponent, Nat.shiftLeft_eq]
  exact hround

theorem unpack_toFloat (hpos : 0 < n) (hlt : n < 2 ^ 53) :
    n.toUInt64.toFloat.toModel.unpack = unrounded hpos hlt := by
  have hword : n.toUInt64.toNat = n := Nat.mod_eq_of_lt (by omega)
  have hsign : compare (n : Int) 0 = .gt := compare_gt_iff_gt.2 (by omega)
  have hofNat : UnpackedFloat.ofUInt64 Format.binary64 n.toUInt64 =
      UnpackedFloat.round Format.binary64 .positive n 0 := by
    simp only [UnpackedFloat.ofUInt64, UnpackedFloat.ofNat, UnpackedFloat.ofInt,
      UnpackedFloat.normalize, hword, hsign, Int.toNat_natCast]
  show (Float.Model.pack (UnpackedFloat.ofUInt64 Format.binary64 n.toUInt64)).unpack = _
  rw [hofNat, round_of_lt hpos hlt, unpack_pack_unrounded]

/-- **A number that is not rounded**, as a float: it is multiplied by one. -/
theorem unpack_ofNat_of_lt (hpos : 0 < n) (hlt : n < 2 ^ 53) :
    (Float.ofNat n).toModel.unpack = unrounded hpos hlt := by
  have hofNat : Float.ofNat n = n.toUInt64.toFloat * Float.ofBits 4607182418800017408 :=
    dif_pos ⟨hlt, by decide⟩
  have hone : (Float.ofBits 4607182418800017408).toModel.unpack =
      .finite .positive (2 ^ 52) (-52) (by decide) := rfl
  have hproduct : UnpackedFloat.mul Format.binary64 (unrounded hpos hlt)
      (.finite .positive (2 ^ 52) (-52) (by decide)) = unrounded hpos hlt :=
    roundWithAccuracy_scaled (isNormal_of_lt hpos hlt) .positive 52
  rw [hofNat]
  show (Float.Model.pack (UnpackedFloat.mul Format.binary64 n.toUInt64.toFloat.toModel.unpack
    (Float.ofBits 4607182418800017408).toModel.unpack)).unpack = _
  rw [unpack_toFloat hpos hlt, hone, hproduct, unpack_pack_unrounded]

end

/-- **A number that is rounded**: its exponent is not less than one. -/
theorem exists_unpack_ofNat {n : Nat} (hle : 2 ^ 53 ≤ n) :
    ∃ (m : Nat) (e : Int) (h : IsNormal m e), 1 ≤ e ∧ (Float.ofNat n).toModel.unpack =
      if e ≤ 971 then .finite .positive m e h.pos else .infinity .positive := by
  have hpos : n ≠ 0 := by omega
  have hlog : 53 ≤ n.log2 := (Nat.le_log2 hpos).2 hle
  have hlong : (n * 2 ^ 53).log2 = n.log2 + 53 := log2_mul_two_pow hpos 53
  obtain ⟨m, e, h, he, hround⟩ : ∃ (m : Nat) (e : Int) (h : IsNormal m e),
      ((n * 2 ^ 53).log2 : Int) + -53 - 52 ≤ e ∧
        roundWithAccuracy Format.binary64 .positive (n * 2 ^ 53) (-53) .exact =
          .finite .positive m e h.pos := exists_roundWithAccuracy _ (by omega) (by omega)
  refine ⟨m, e, h, by omega, ?_⟩
  have hofNat : Float.ofNat n = ⟨Float.Model.ofScientific n 0⟩ := dif_neg (by omega)
  have hmul : UnpackedFloat.ofScientific Format.binary64 n 0 =
      roundWithAccuracy Format.binary64 .positive (n * 2 ^ 53) (-53) .exact := by
    have hsmall : ¬ (0 : Int) < -(2 ^ Format.binary64.exponentBits + (n.log2 : Int)) := by
      show ¬ (0 : Int) < -(2 ^ 11 + (n.log2 : Int))
      omega
    rw [UnpackedFloat.ofScientific, dif_neg hpos, if_neg (by decide), if_neg hsmall,
      if_pos (Int.le_refl 0), ← Nat.shiftLeft_eq, ← Nat.mul_one (n <<< 53)]
    rfl
  rw [hofNat, Float.Model.ofScientific, hmul, hround, unpack_pack h]

/-! ## Order -/

theorem lt_iff_unpack {x y : Float} :
    x < y ↔ x.toModel.unpack.compare y.toModel.unpack = some .lt := by
  show x.lt y = true ↔ _
  rw [Float.lt, decide_eq_true_iff]
  exact beq_iff_eq

theorem le_iff_unpack {x y : Float} :
    x ≤ y ↔ (x.toModel.unpack.compare y.toModel.unpack).any (·.isLE) = true := by
  show x.le y = true ↔ _
  rw [Float.le, decide_eq_true_iff]
  rfl

/-- Comparing in the other order turns the answer around. -/
theorem compare_swap (x y : UnpackedFloat) : (x.compare y).map Ordering.swap = y.compare x := by
  have hfinite : ∀ (e₁ e₂ : Int) (m₁ m₂ : Nat),
      ((compare e₁ e₂).then (compare m₁ m₂)).swap = (compare e₂ e₁).then (compare m₂ m₁) := by
    intro e₁ e₂ m₁ m₂
    rw [Ordering.swap_then, ← Std.OrientedCmp.eq_swap, ← Std.OrientedCmp.eq_swap]
  cases x with
  | finite s m e hm =>
    cases y with
    | finite t n f hn =>
      cases s <;> cases t
      case positive.positive => exact congrArg some (hfinite e f m n)
      case negative.negative => exact congrArg (fun o => some o.swap) (hfinite e f m n)
      all_goals rfl
    | infinity t => cases s <;> cases t <;> rfl
    | zero t => cases s <;> rfl
    | notANumber => rfl
  | infinity s =>
    cases y with
    | notANumber => rfl
    | _ t => cases s <;> cases t <;> rfl
  | zero s =>
    cases y with
    | notANumber => rfl
    | _ t => cases s <;> cases t <;> rfl
  | notANumber => cases y <;> rfl

/-- **Numbers that are not rounded** compare as significands and exponents do. -/
theorem compare_scaled {n k : Nat} (hn : 0 < n) (hk : 0 < k) :
    (compare ((n.log2 : Int) - 52) ((k.log2 : Int) - 52)).then
      (compare (n * 2 ^ (52 - n.log2)) (k * 2 ^ (52 - k.log2))) = compare n k := by
  rcases Nat.lt_trichotomy n.log2 k.log2 with hlog | hlog | hlog
  · have hlt : n < k :=
      calc n < 2 ^ k.log2 := (Nat.log2_lt (Nat.ne_of_gt hn)).1 hlog
        _ ≤ k := Nat.log2_self_le (Nat.ne_of_gt hk)
    rw [compare_lt_iff_lt.2 hlt, compare_lt_iff_lt.2 (by omega)]
    rfl
  · rw [hlog, compare_eq_iff_eq.2 rfl]
    show compare (n * 2 ^ (52 - k.log2)) (k * 2 ^ (52 - k.log2)) = _
    simp only [Nat.compare_eq_ite_lt, Nat.mul_lt_mul_right (Nat.two_pow_pos _)]
  · have hlt : k < n :=
      calc k < 2 ^ n.log2 := (Nat.log2_lt (Nat.ne_of_gt hk)).1 hlog
        _ ≤ n := Nat.log2_self_le (Nat.ne_of_gt hn)
    rw [compare_gt_iff_gt.2 hlt, compare_gt_iff_gt.2 (by omega)]
    rfl

/-- **A float of a natural number, compared with one that is not rounded.** -/
theorem compare_ofNat (n : Nat) {k : Nat} (hk : 0 < k) (hk' : k < 2 ^ 53) :
    (Float.ofNat n).toModel.unpack.compare (Float.ofNat k).toModel.unpack =
      some (compare n k) := by
  rw [unpack_ofNat_of_lt hk hk']
  rcases Nat.eq_zero_or_pos n with rfl | hn
  · have hzero : (Float.ofNat 0).toModel.unpack = .zero .positive := rfl
    rw [hzero, compare_lt_iff_lt.2 hk]
    rfl
  by_cases hn' : n < 2 ^ 53
  · rw [unpack_ofNat_of_lt hn hn', ← compare_scaled hn hk]
    rfl
  · have hlog := log2_le hk hk'
    obtain ⟨m, e, h, he, hunpack⟩ := exists_unpack_ofNat (Nat.le_of_not_lt hn')
    rw [hunpack, compare_gt_iff_gt.2 (show n > k by omega)]
    split
    · show some ((compare e ((k.log2 : Int) - 52)).then _) = _
      rw [compare_gt_iff_gt.2 (by omega)]
      rfl
    · rfl

/-- A float below zero stays below every natural number that is not rounded. -/
theorem compare_neg_ofNat (n : Nat) {k : Nat} (hk : 0 < k) (hk' : k < 2 ^ 53) :
    (-Float.ofNat n).toModel.unpack.compare (Float.ofNat k).toModel.unpack = some .lt := by
  have hneg : (-Float.ofNat n).toModel.unpack =
      (Float.Model.pack (Float.ofNat n).toModel.unpack.neg).unpack := rfl
  rw [hneg, unpack_ofNat_of_lt hk hk']
  rcases Nat.eq_zero_or_pos n with rfl | hn
  · rfl
  by_cases hn' : n < 2 ^ 53
  · rw [unpack_ofNat_of_lt hn hn']
    show (Float.Model.pack (.finite .negative _ _ (isNormal_of_lt hn hn').pos)).unpack.compare _ = _
    rw [unpack_pack (isNormal_of_lt hn hn')]
    split <;> rfl
  · obtain ⟨m, e, h, -, hunpack⟩ := exists_unpack_ofNat (Nat.le_of_not_lt hn')
    rw [hunpack]
    split
    · rw [UnpackedFloat.neg, unpack_pack h]
      split <;> rfl
    · rfl

/-- **A lower bound that is not rounded** can be asked of an integer before it becomes a float. -/
theorem ofNat_le_ofInt_iff {k : Nat} (hk : 0 < k) (hk' : k < 2 ^ 53) (n : Int) :
    Float.ofNat k ≤ Float.ofInt n ↔ (k : Int) ≤ n := by
  rw [le_iff_unpack, ← compare_swap]
  cases n with
  | ofNat n =>
    show ((((Float.ofNat n).toModel.unpack.compare (Float.ofNat k).toModel.unpack).map
      Ordering.swap).any (·.isLE) = true) ↔ _
    rw [compare_ofNat n hk hk', Int.ofNat_eq_natCast, Int.ofNat_le, ← Nat.isGE_compare]
    cases compare n k <;> decide
  | negSucc n =>
    show ((((-Float.ofNat (n + 1)).toModel.unpack.compare (Float.ofNat k).toModel.unpack).map
      Ordering.swap).any (·.isLE) = true) ↔ _
    rw [compare_neg_ofNat _ hk hk']
    exact iff_of_false (by decide) (by omega)

/-- **An upper bound that is not rounded** can be asked of an integer before it becomes a float. -/
theorem ofInt_lt_ofNat_iff {k : Nat} (hk : 0 < k) (hk' : k < 2 ^ 53) (n : Int) :
    Float.ofInt n < Float.ofNat k ↔ n < k := by
  rw [lt_iff_unpack]
  cases n with
  | ofNat n =>
    show (Float.ofNat n).toModel.unpack.compare (Float.ofNat k).toModel.unpack = _ ↔ _
    rw [compare_ofNat n hk hk', Option.some_inj, compare_lt_iff_lt, Int.ofNat_eq_natCast,
      Int.ofNat_lt]
  | negSucc n => exact iff_of_true (compare_neg_ofNat _ hk hk') (by omega)

end MonitorControl
