import SheetFormula.Number.Basic

namespace SheetFormula.Binary64

/-!
# Integers as doubles

An integer becomes the nearest double, and of two that are equally near the one with the even
significand.  So a larger integer never becomes a smaller double, but large integers that are close
to each other can become the same one.

* `roundedQuotient` — division with rounding to the nearest integer.
* `Represents` — what a significand and the two bits behind it say about a quotient.  Shifting keeps
  it (`Represents.shiftRight`), and rounding reads the rounded quotient off
  (`Represents.roundedMantissa_eq`).
* `IsNormal` — doubles with a significand of 53 bits; `exists_isNormal_roundedDouble` is what
  rounding to such a double does.
* `orderKey?_ofInt` — the place of the double of an integer in the order of all doubles, as a
  function of the integer (`nearestKey`).
* `nearestKey_mono` and `nearestKey_lt` — this function never decreases, and below `2 ^ 53` it
  increases.
-/

open Float.Model Float.Model.UnpackedFloat

/-! ### Rounding to the nearest integer -/

/-- `x / w`, rounded to the nearest integer; of two that are equally near, to the even one. -/
def roundedQuotient (x w : Nat) : Nat :=
  if 2 * (x % w) < w ∨ 2 * (x % w) = w ∧ x / w % 2 = 0 then x / w else x / w + 1

/-- A quotient that is whole is not changed by rounding. -/
theorem roundedQuotient_mul {w : Nat} (hw : 0 < w) (q : Nat) : roundedQuotient (q * w) w = q := by
  unfold roundedQuotient
  rw [Nat.mul_mod_left, Nat.mul_div_cancel q hw, if_pos (.inl hw)]

/-- Rounding keeps the order of quotients. -/
theorem roundedQuotient_mono {x y w : Nat} (h : x ≤ y) :
    roundedQuotient x w ≤ roundedQuotient y w := by
  have hquotient : x / w ≤ y / w := Nat.div_le_div_right h
  have hx := Nat.div_add_mod x w
  have hy := Nat.div_add_mod y w
  unfold roundedQuotient
  by_cases heq : x / w = y / w
  · -- The remainder of `y` is at least that of `x`.
    rw [heq] at hx ⊢
    split <;> split <;> omega
  · split <;> split <;> omega

/-! ### Shifted significands -/

/-- Does the extended mantissa stand for `x / w`?  The mantissa is the quotient, the next bit tells
    if half a unit is left, and the last bit if there is more than that. -/
structure Represents (em : ExtendedMantissa) (x w : Nat) : Prop where
  mantissa : em.mantissa = x / w
  roundBit : em.roundBit = true ↔ w ≤ 2 * (x % w)
  stickyBit : em.stickyBit = true ↔ x % w ≠ 0 ∧ 2 * (x % w) ≠ w

/-- Before any shift the mantissa is the number itself, with nothing left over. -/
theorem represents_exact (x : Nat) :
    Represents (ExtendedMantissa.ofMantissaAndAccuracy x .exact) x 1 := by
  refine ⟨(Nat.div_one x).symm, ?_, ?_⟩ <;>
    simp [ExtendedMantissa.ofMantissaAndAccuracy, Nat.mod_one]

namespace Represents

variable {em : ExtendedMantissa} {x w : Nat}

/-- **Rounding an extended mantissa** rounds the quotient that it stands for. -/
theorem roundedMantissa_eq (h : Represents em x w) (hw : 0 < w) :
    em.roundedMantissa = roundedQuotient x w := by
  obtain ⟨m, r, s⟩ := em
  obtain ⟨hm, hr, hs⟩ := h
  simp only at hm hr hs
  have hrest := Nat.mod_lt x hw
  unfold roundedQuotient
  rw [← hm]
  -- The two bits say whether the rest is nothing, less than half, half or more than half.
  cases r <;> cases s <;>
    simp only [ExtendedMantissa.roundedMantissa, ExtendedMantissa.accuracy,
      Accuracy.roundToNearestEven] <;>
    simp at hr hs <;> split <;> omega

/-- Shifting by one bit doubles the divisor: what was the last bit becomes the half. -/
theorem shiftRightOne (h : Represents em x w) (hw : 0 < w) :
    Represents em.shiftRightOne x (w * 2) := by
  have hrest := Nat.mod_lt x hw
  -- The last bit of the quotient goes over to the rest.
  have hmod : x % (w * 2) = x % w + w * (x / w % 2) := Nat.mod_mul
  refine ⟨?_, ?_, ?_⟩
  · show em.mantissa / 2 = _
    rw [h.mantissa, Nat.div_div_eq_div_mul]
  · show (em.mantissa % 2 != 0) = true ↔ _
    rw [h.mantissa, hmod, bne_iff_ne]
    rcases Nat.mod_two_eq_zero_or_one (x / w) with hbit | hbit <;> rw [hbit] <;> omega
  · show (em.roundBit || em.stickyBit) = true ↔ _
    rw [Bool.or_eq_true, h.roundBit, h.stickyBit, hmod]
    rcases Nat.mod_two_eq_zero_or_one (x / w) with hbit | hbit <;> rw [hbit] <;> omega

/-- Shifting by several bits is shifting by one bit several times. -/
theorem shiftRight (h : Represents em x w) (hw : 0 < w) (k : Nat) :
    Represents (em >>> k) x (w * Nat.pow 2 k) := by
  induction k with
  | zero =>
    show Represents em x (w * 1)
    rwa [Nat.mul_one]
  | succ k ih =>
    have hpos : 0 < w * Nat.pow 2 k := Nat.mul_pos hw (Nat.pow_pos (by decide))
    have hnext := ih.shiftRightOne hpos
    rwa [Nat.mul_assoc] at hnext

end Represents

/-- Rounding after a shift by `k` bits divides by `2 ^ k`. -/
theorem roundedMantissa_shiftRight (x k : Nat) :
    (ExtendedMantissa.ofMantissaAndAccuracy x .exact >>> k).roundedMantissa =
      roundedQuotient x (Nat.pow 2 k) := by
  have h := (represents_exact x).shiftRight (by decide) k
  rw [Nat.one_mul] at h
  exact h.roundedMantissa_eq (Nat.pow_pos (by decide))

/-! ### Doubles with 53 bits -/

/-- Is the double normal, with this sign, significand and exponent? -/
structure IsNormal (x : Float) (s : Sign) (m : Nat) (e : Int) : Prop where
  low : leadingBit ≤ m
  high : m < 2 * leadingBit
  minExponent : -1074 ≤ e
  maxExponent : e ≤ 971
  eq : ∃ hm : 0 < m, x = Float.ofModel (Float.Model.pack (.finite s m e hm))

/-- The number in digits, for arithmetic that does not know powers. -/
theorem leadingBit_eq : leadingBit = 4503599627370496 := rfl

/-- A significand with its leading bit set has 53 bits. -/
theorem log2_eq_of_bounds {m : Nat} (hlow : leadingBit ≤ m) (hhigh : m < 2 * leadingBit) :
    m.log2 = 52 := by
  have hm : m ≠ 0 := by
    rintro rfl
    exact absurd hlow (by decide)
  exact (Nat.log2_eq_iff hm).mpr ⟨hlow, hhigh⟩

/-- A number with `k` bits more than a significand lies between shifted significands. -/
theorem bounds_of_log2 {x k : Nat} (hx : x.log2 = 52 + k) :
    leadingBit * Nat.pow 2 k ≤ x ∧ x < 2 * leadingBit * Nat.pow 2 k := by
  have hx0 : x ≠ 0 := by
    rintro rfl
    rw [Nat.log2_zero] at hx
    omega
  obtain ⟨hlow, hhigh⟩ := (Nat.log2_eq_iff hx0).mp hx
  constructor
  · exact Nat.le_trans (Nat.le_of_eq (Nat.pow_add 2 52 k).symm) hlow
  · refine Nat.lt_of_lt_of_eq hhigh ?_
    rw [Nat.add_right_comm]
    exact Nat.pow_add 2 53 k

/-- A left shift as a product, for `Nat.pow` by its own name. -/
theorem shiftLeft_eq (n k : Nat) : n <<< k = n * Nat.pow 2 k := Nat.shiftLeft_eq n k

/-- A left shift adds its bits to the length of a number. -/
theorem log2_shiftLeft {n : Nat} (hn : n ≠ 0) (k : Nat) : (n <<< k).log2 = n.log2 + k := by
  induction k with
  | zero => rfl
  | succ k ih =>
    have hk : n <<< k ≠ 0 := by
      rw [shiftLeft_eq]
      exact Nat.mul_ne_zero hn (Nat.ne_of_gt (Nat.pow_pos (by decide)))
    rw [Nat.shiftLeft_succ, Nat.log2_two_mul hk, ih, Nat.add_assoc]

/-- A shift by 53 bits leaves more bits than a significand has. -/
theorem log2_shiftLeft_53 {n : Nat} (hn : n ≠ 0) : (n <<< 53).log2 = 52 + (n.log2 + 1) := by
  rw [log2_shiftLeft hn]
  omega

/-- The exponent that leaves 53 bits, but none below that of the subnormal numbers. -/
theorem targetExponent_eq {m : Nat} {e : Int} :
    Format.binary64.targetExponent (totalExponent m e) = max (m.log2 + e - 52) (-1074) := by
  have hmin : Format.binary64.minExponent = -1074 := by decide
  have hbits : Format.binary64.mantissaBits = 53 := rfl
  simp only [Format.targetExponent, totalExponent, hmin, hbits]
  omega

/-- A number with `k` bits more than a significand is shifted by `k` bits. -/
theorem shiftToTargetExponent_eq {x k : Nat} {e : Int} (hx : x.log2 = 52 + k)
    (he : -1074 ≤ e + k) :
    shiftToTargetExponent Format.binary64 x e .exact =
      (ExtendedMantissa.ofMantissaAndAccuracy x .exact >>> k, e + k) := by
  have hshift : (max ((x.log2 : Int) + e - 52) (-1074) - e).toNat = k := by omega
  simp only [shiftToTargetExponent, targetExponent_eq, shiftToExponent, hshift]

/-- Rounding to 53 bits gives a significand, or the first one of the next exponent. -/
theorem roundedQuotient_bounds {x k : Nat} (hx : x.log2 = 52 + k) :
    leadingBit ≤ roundedQuotient x (Nat.pow 2 k) ∧
      roundedQuotient x (Nat.pow 2 k) ≤ 2 * leadingBit := by
  have hw : 0 < Nat.pow 2 k := Nat.pow_pos (by decide)
  obtain ⟨hlow, hhigh⟩ := bounds_of_log2 hx
  constructor
  · rw [← roundedQuotient_mul hw leadingBit]
    exact roundedQuotient_mono hlow
  · rw [← roundedQuotient_mul hw (2 * leadingBit)]
    exact roundedQuotient_mono (Nat.le_of_lt hhigh)

/-- The double that `x * 2 ^ e` is rounded to. -/
def roundedDouble (s : Sign) (x : Nat) (e : Int) : Float :=
  Float.ofModel (Float.Model.pack (roundWithAccuracy Format.binary64 s x e .exact))

/-- **Rounding to 53 bits** divides by a power of two and rounds to the nearest integer. -/
theorem exists_isNormal_roundedDouble (s : Sign) {x k : Nat} {e : Int} (hx : x.log2 = 52 + k)
    (he : -1074 ≤ e + k) (he' : e + k ≤ 970) :
    ∃ m e', IsNormal (roundedDouble s x e) s m e' ∧ e' ≤ e + k + 1 ∧
      e' * leadingBit + m = (e + k) * leadingBit + roundedQuotient x (Nat.pow 2 k) := by
  obtain ⟨hlow, hhigh⟩ := roundedQuotient_bounds hx
  unfold roundedDouble roundWithAccuracy
  rw [shiftToTargetExponent_eq hx he]
  dsimp only
  rw [roundedMantissa_shiftRight]
  generalize roundedQuotient x (Nat.pow 2 k) = r at hlow hhigh
  by_cases hcarry : r < 2 * leadingBit
  · have hm : 0 < r := Nat.lt_of_lt_of_le (by decide) hlow
    rw [shiftToTargetExponent_eq (k := 0) (log2_eq_of_bounds hlow hcarry) (by omega)]
    refine ⟨r, e + k, ⟨hlow, hcarry, he, by omega, hm, ?_⟩, by omega, rfl⟩
    rw [Int.natCast_zero, Int.add_zero]
    exact congrArg (fun u => Float.ofModel (Float.Model.pack u)) (dif_neg (Nat.ne_of_gt hm))
  · -- Rounding up has given one bit more; the number is a power of two then.
    obtain rfl : r = 2 * leadingBit := by omega
    have hlog : (2 * leadingBit).log2 = 52 + 1 := by decide
    rw [shiftToTargetExponent_eq hlog (by omega)]
    refine ⟨leadingBit, e + k + 1, ⟨by decide, by decide, by omega, by omega, by decide, rfl⟩,
      by omega, ?_⟩
    rw [leadingBit_eq]
    omega

/-! ### The bits of a normal double -/

/-- The biased exponent of a normal number fits into its eleven bits. -/
theorem toNat_biasedExponent {e : Int} (h : -1074 ≤ e) (h' : e ≤ 971) :
    (BitVec.ofNat 11 (e + 1075).toNat).toNat = (e + 1075).toNat := by
  rw [BitVec.toNat_ofNat]
  exact Nat.mod_eq_of_lt (show _ < 2048 by omega)

/-- The fraction field has the significand without its leading bit. -/
theorem toNat_fraction {m : Nat} (hlow : leadingBit ≤ m) (hhigh : m < 2 * leadingBit) :
    (BitVec.ofNat 52 m).toNat = m - leadingBit := by
  rw [leadingBit_eq] at *
  rw [BitVec.toNat_ofNat]
  show m % 4503599627370496 = _
  omega

/-- A normal number is packed field by field. -/
theorem pack_normal {s : Sign} {m : Nat} {e : Int} (hm : 0 < m) (hlow : leadingBit ≤ m)
    (hhigh : m < 2 * leadingBit) (he : e ≤ 971) :
    UnpackedFloat.pack Format.binary64 (.finite s m e hm) =
      packComponents Format.binary64 s (BitVec.ofNat 11 (e + 1075).toNat) (BitVec.ofNat 52 m) := by
  have hfield : ¬ Nat.pow 2 11 ≤ (e + 1023 + 52).toNat + 1 := by
    show ¬ 2048 ≤ _
    omega
  have hbias : e + 1023 + 52 = e + 1075 := by omega
  rw [← hbias]
  unfold UnpackedFloat.pack
  exact (if_neg hfield).trans (if_pos (congrArg (· + 1) (log2_eq_of_bounds hlow hhigh)))

/-- The sign field is read back. -/
theorem unpackSign_packComponents (s : Sign) (e : BitVec 11) (m : BitVec 52) :
    unpackSign (packComponents Format.binary64 s e m) = s.toBitVec := by
  show (s.toBitVec ++ e ++ m).extractLsb' 63 1 = s.toBitVec
  rw [BitVec.extractLsb'_append_eq_of_le (by decide),
    BitVec.extractLsb'_append_eq_of_le (by decide)]
  cases s <;> rfl

/-- The sign is the highest bit. -/
theorem toNat_packComponents (s : Sign) (e : BitVec 11) (m : BitVec 52) :
    (packComponents Format.binary64 s e m).toNat % signBit = e.toNat * leadingBit + m.toNat := by
  have he := e.isLt
  have hm := m.isLt
  unfold packComponents
  rw [BitVec.toNat_append, BitVec.toNat_append, ← Nat.shiftLeft_add_eq_or_of_lt e.isLt,
    ← Nat.shiftLeft_add_eq_or_of_lt m.isLt, Nat.shiftLeft_eq, Nat.shiftLeft_eq]
  simp only [signBit, leadingBit]
  omega

/-- A packed number has the highest bit set if its sign is negative. -/
theorem isNegative_packComponents (s : Sign) (e : BitVec 11) (m : BitVec 52) :
    signBit ≤ (packComponents Format.binary64 s e m).toNat ↔ s = .negative := by
  have he := e.isLt
  have hm := m.isLt
  unfold packComponents
  rw [BitVec.toNat_append, BitVec.toNat_append, ← Nat.shiftLeft_add_eq_or_of_lt e.isLt,
    ← Nat.shiftLeft_add_eq_or_of_lt m.isLt, Nat.shiftLeft_eq, Nat.shiftLeft_eq]
  cases s <;> simp [signBit, Sign.toBitVec] <;> omega

/-- Unpacked numbers are equal if their three parts are. -/
theorem finite_congr {s t : Sign} {m n : Nat} {e f : Int} (hs : s = t) (hm : m = n) (he : e = f)
    (h : 0 < m) : UnpackedFloat.finite s m e h = .finite t n f (hm ▸ h) := by
  subst hs hm he
  rfl

/-- The exponent field of a normal number is neither that of the subnormal numbers nor that of the
    infinities. -/
theorem unpack_of_exponent {b : BitVec 64}
    (hinfinite : @unpackExponent Format.binary64 b ≠ -1#11)
    (hsubnormal : @unpackExponent Format.binary64 b ≠ 0#11)
    (h : 0 < (1#1 ++ @unpackMantissa Format.binary64 b).toNat) :
    UnpackedFloat.unpack Format.binary64 b =
      .finite (Sign.ofBitVec (@unpackSign Format.binary64 b))
        (1#1 ++ @unpackMantissa Format.binary64 b).toNat
        ((@unpackExponent Format.binary64 b).toNat - (1023 + 52)) h := by
  unfold UnpackedFloat.unpack
  exact (if_neg hinfinite).trans (if_neg hsubnormal)

/-- Packing loses nothing of a normal number. -/
theorem unpack_pack_normal {s : Sign} {m : Nat} {e : Int} (hm : 0 < m) (hlow : leadingBit ≤ m)
    (hhigh : m < 2 * leadingBit) (he : -1074 ≤ e) (he' : e ≤ 971) :
    UnpackedFloat.unpack Format.binary64 (UnpackedFloat.pack Format.binary64 (.finite s m e hm)) =
      .finite s m e hm := by
  have hfield := toNat_biasedExponent he he'
  -- The exponent field is neither all zeros nor all ones.
  have hne : ∀ b : BitVec 11, b.toNat = 0 ∨ b.toNat = 2047 →
      BitVec.ofNat 11 (e + 1075).toNat ≠ b := by
    rintro b hb rfl
    rw [hfield] at hb
    omega
  -- The leading bit is not written, and unpacking puts it back.
  have hmantissa : (1#1 ++ BitVec.ofNat 52 m).toNat = m := by
    rw [BitVec.toNat_append, ← Nat.shiftLeft_add_eq_or_of_lt (BitVec.isLt _), Nat.shiftLeft_eq,
      toNat_fraction hlow hhigh]
    show 1 * leadingBit + (m - leadingBit) = m
    omega
  have hexponent : ((BitVec.ofNat 11 (e + 1075).toNat).toNat : Int) - (1023 + 52) = e := by
    rw [hfield]
    omega
  rw [pack_normal hm hlow hhigh he', unpack_of_exponent]
  · refine finite_congr ?_ ?_ ?_ _
    · rw [unpackSign_packComponents]
      cases s <;> rfl
    · rw [unpackMantissa_packComponents]
      exact hmantissa
    · rw [unpackExponent_packComponents]
      exact hexponent
  · rw [unpackExponent_packComponents]
    exact hne (-1#11) (.inr rfl)
  · rw [unpackExponent_packComponents]
    exact hne 0#11 (.inl rfl)
  · rw [unpackMantissa_packComponents]
    exact Nat.lt_of_lt_of_eq hm hmantissa.symm

namespace IsNormal

variable {x y : Float} {s t : Sign} {m n : Nat} {e f : Int}

/-- The bits of a normal double are its packed fields. -/
theorem toBits_eq (h : IsNormal x s m e) :
    x.toBits.toBitVec =
      packComponents Format.binary64 s (BitVec.ofNat 11 (e + 1075).toNat) (BitVec.ofNat 52 m) := by
  obtain ⟨hm, rfl⟩ := h.eq
  exact pack_normal hm h.low h.high h.maxExponent

/-- A normal double is unpacked into the parts it has. -/
theorem unpack_eq (h : IsNormal x s m e) : ∃ hm : 0 < m, x.toModel.unpack = .finite s m e hm := by
  obtain ⟨hm, rfl⟩ := h.eq
  exact ⟨hm, unpack_pack_normal hm h.low h.high h.minExponent h.maxExponent⟩

/-- The exponent and the significand together are the magnitude. -/
theorem magnitude_eq (h : IsNormal x s m e) :
    (magnitude x : Int) = (e + 1074) * leadingBit + m := by
  have hmagnitude : magnitude x = (e + 1075).toNat * leadingBit + (m - leadingBit) := by
    unfold magnitude
    rw [← UInt64.toNat_toBitVec, h.toBits_eq, toNat_packComponents,
      toNat_biasedExponent h.minExponent h.maxExponent, toNat_fraction h.low h.high]
  have hlow := h.low
  have hmin := h.minExponent
  rw [hmagnitude]
  rw [leadingBit_eq] at hlow ⊢
  omega

/-- The magnitude of a normal double is below that of the infinities. -/
theorem magnitude_lt (h : IsNormal x s m e) : magnitude x < infinityMagnitude := by
  have hmagnitude := h.magnitude_eq
  have hhigh := h.high
  have hmax := h.maxExponent
  rw [infinityMagnitude]
  rw [leadingBit_eq] at *
  omega

/-- Normal doubles are finite. -/
theorem isFinite (h : IsNormal x s m e) : Binary64.isFinite x = true :=
  decide_eq_true h.magnitude_lt

/-- The sign of a normal double is the sign it has as a number. -/
theorem isNegative_iff (h : IsNormal x s m e) : isNegative x = true ↔ s = .negative := by
  unfold isNegative
  rw [decide_eq_true_iff, ← UInt64.toNat_toBitVec, h.toBits_eq]
  exact isNegative_packComponents s _ _

/-- Negation changes the sign and nothing else. -/
theorem neg (h : IsNormal x s m e) : IsNormal (-x) (-s) m e := by
  obtain ⟨hm, hunpack⟩ := h.unpack_eq
  refine ⟨h.low, h.high, h.minExponent, h.maxExponent, hm, ?_⟩
  show Float.ofModel (Float.Model.pack x.toModel.unpack.neg) = _
  rw [hunpack]
  rfl

/-- A product of normal doubles is the product of the significands, rounded once. -/
theorem mul_eq (hx : IsNormal x s m e) (hy : IsNormal y t n f) :
    x * y = roundedDouble (s * t) (m * n) (e + f) := by
  obtain ⟨hm, hxunpack⟩ := hx.unpack_eq
  obtain ⟨hn, hyunpack⟩ := hy.unpack_eq
  show Float.ofModel (Float.Model.pack (UnpackedFloat.mul Format.binary64 x.toModel.unpack
    y.toModel.unpack)) = _
  rw [hxunpack, hyunpack]
  rfl

/-- The number one, by its bits. -/
theorem isNormal_one : IsNormal (Float.ofBits 0x3FF0000000000000) .positive leadingBit (-52) :=
  ⟨by decide, by decide, by decide, by decide, by decide, rfl⟩

/-- Multiplication by one keeps the value. -/
theorem exists_isNormal_mul_one (h : IsNormal x .positive m e) (he : e ≤ 970) :
    ∃ n f, IsNormal (x * Float.ofBits 0x3FF0000000000000) .positive n f ∧
      f * leadingBit + n = e * leadingBit + m := by
  -- The significand of the number one is a power of two, so the other one is only shifted.
  have hlog : (m * leadingBit).log2 = 52 + 52 := by
    have hshift := log2_shiftLeft (Nat.ne_of_gt (Nat.lt_of_lt_of_le (by decide) h.low)) 52
    rwa [shiftLeft_eq, log2_eq_of_bounds h.low h.high] at hshift
  have hmin := h.minExponent
  obtain ⟨n, f, hnormal, -, hvalue⟩ :=
    exists_isNormal_roundedDouble .positive (e := e + -52) hlog (by omega) (by omega)
  have hsum : e + -52 + (52 : Nat) = e := by omega
  have hquotient : roundedQuotient (m * leadingBit) (Nat.pow 2 52) = m :=
    roundedQuotient_mul (by decide) m
  rw [hsum, hquotient] at hvalue
  exact ⟨n, f, h.mul_eq isNormal_one ▸ hnormal, hvalue⟩

end IsNormal

/-! ### Natural numbers -/

/-- The magnitude of the double nearest to `n`: the exponent by the number of bits, and the leading
    53 bits, rounded. -/
def nearestMagnitude (n : Nat) : Nat :=
  if n = 0 then 0
  else (n.log2 + 1022) * leadingBit + roundedQuotient (n <<< 53) (Nat.pow 2 (n.log2 + 1))

/-- A number of at most 53 bits is not rounded. -/
theorem nearestMagnitude_of_lt {n : Nat} (hn : n ≠ 0) (hlog : n.log2 < 53) :
    nearestMagnitude n = (n.log2 + 1022) * leadingBit + (n <<< (52 - n.log2)) := by
  have hexact : n <<< 53 = n <<< (52 - n.log2) * Nat.pow 2 (n.log2 + 1) := by
    have hsum : 53 = (52 - n.log2) + (n.log2 + 1) := by omega
    have hpower : Nat.pow 2 53 = Nat.pow 2 (52 - n.log2) * Nat.pow 2 (n.log2 + 1) :=
      (congrArg (Nat.pow 2) hsum).trans (Nat.pow_add 2 _ _)
    rw [shiftLeft_eq, shiftLeft_eq, hpower, Nat.mul_assoc]
  rw [nearestMagnitude, if_neg hn, hexact]
  exact congrArg (_ + ·) (roundedQuotient_mul (Nat.pow_pos (by decide)) _)

/-- A number of at most 53 bits becomes a double by a shift of its significand. -/
theorem toFloat_eq_roundedDouble {n : Nat} (hn : n ≠ 0) (hsmall : n < Nat.pow 2 53) :
    n.toUInt64.toFloat =
      roundedDouble .positive (n <<< (52 - n.log2)) (0 - (52 - n.log2 : Nat)) := by
  have hpower : Nat.pow 2 53 = 9007199254740992 := rfl
  have hnat : n.toUInt64.toNat = n :=
    UInt64.toNat_ofNat_of_lt' (show n < 18446744073709551616 by omega)
  have hcompare : compare (n : Int) 0 = .gt := Int.compare_eq_gt.mpr (by omega)
  have hlog : n.log2 < 53 := (Nat.log2_lt hn).mpr hsmall
  -- Small numbers are shifted left until they have 53 bits; they lose none.
  have hshift : ((0 : Int) - max ((n.log2 : Int) + 0 - 52) (-1074)).toNat = 52 - n.log2 := by
    omega
  show Float.ofModel (Float.Model.pack (UnpackedFloat.ofNat Format.binary64 n.toUInt64.toNat)) = _
  rw [hnat]
  unfold UnpackedFloat.ofNat UnpackedFloat.ofInt UnpackedFloat.normalize
  rw [hcompare]
  dsimp only [UnpackedFloat.round, decreaseExponent]
  rw [Int.toNat_natCast, targetExponent_eq, hshift]
  rfl

/-- A number of more than 53 bits is converted like a decimal literal. -/
theorem ofNat_eq_pack {n : Nat} (h : Nat.pow 2 53 ≤ n) :
    Float.ofNat n =
      Float.ofModel (Float.Model.pack (UnpackedFloat.ofScientific Format.binary64 n 0)) := by
  show Float.ofScientific n false 0 = _
  unfold Float.ofScientific
  rw [dif_neg fun hfast => Nat.not_lt.mpr h hfast.1]
  rfl

/-- A decimal literal without an exponent is rounded with 53 bits to spare, so only once. -/
theorem ofScientific_zero {n : Nat} (hn : n ≠ 0) :
    UnpackedFloat.ofScientific Format.binary64 n 0 =
      roundWithAccuracy Format.binary64 .positive (n <<< 53 * 1) (-53) .exact := by
  unfold UnpackedFloat.ofScientific
  rw [dif_neg hn, if_neg (by decide)]
  refine (if_neg ?_).trans (if_pos (by decide))
  show ¬ (0 : Int) < -(2048 + n.log2)
  omega

/-- **The double of a natural number** is normal, and its magnitude that of the nearest one. -/
theorem exists_isNormal_ofNat {n : Nat} (hn : n ≠ 0) (hsize : n < UInt64.size) :
    ∃ m e, IsNormal (Float.ofNat n) .positive m e ∧
      (e + 1074) * leadingBit + m = (nearestMagnitude n : Int) := by
  by_cases hsmall : n < Nat.pow 2 53
  · -- A literal of this size is converted by the machine and then multiplied by `10 ^ 0`.
    have hlog : n.log2 < 53 := (Nat.log2_lt hn).mpr hsmall
    have hx : (n <<< (52 - n.log2)).log2 = 52 + 0 := by
      rw [log2_shiftLeft hn]
      omega
    obtain ⟨m, e, hnormal, he, hvalue⟩ := exists_isNormal_roundedDouble .positive
      (e := 0 - (52 - n.log2 : Nat)) hx (by omega) (by omega)
    rw [← toFloat_eq_roundedDouble hn hsmall] at hnormal
    obtain ⟨m', e', hone, hsame⟩ := hnormal.exists_isNormal_mul_one (by omega)
    have hofNat : Float.ofNat n = n.toUInt64.toFloat * Float.ofBits 0x3FF0000000000000 := by
      show Float.ofScientific n false 0 = _
      unfold Float.ofScientific
      rw [dif_pos ⟨hsmall, by decide⟩]
      rfl
    have hquotient : roundedQuotient (n <<< (52 - n.log2)) (Nat.pow 2 0) = n <<< (52 - n.log2) :=
      (congrArg (roundedQuotient · 1) (Nat.mul_one _).symm).trans
        (roundedQuotient_mul (by decide) _)
    refine ⟨m', e', hofNat ▸ hone, ?_⟩
    rw [hquotient] at hvalue
    rw [nearestMagnitude_of_lt hn hlog]
    rw [leadingBit_eq] at *
    omega
  · have hlarge : Nat.pow 2 53 ≤ n := Nat.not_lt.mp hsmall
    have hlog : n.log2 < 64 := (Nat.log2_lt hn).mpr hsize
    obtain ⟨m, e, hnormal, -, hvalue⟩ := exists_isNormal_roundedDouble .positive (e := -53)
      (log2_shiftLeft_53 hn) (by omega) (by omega)
    refine ⟨m, e, ?_, ?_⟩
    · rw [ofNat_eq_pack hlarge, ofScientific_zero hn, Nat.mul_one]
      exact hnormal
    · rw [nearestMagnitude, if_neg hn]
      rw [leadingBit_eq] at *
      omega

/-- A larger number has no fewer bits. -/
theorem log2_mono {m n : Nat} (hm : m ≠ 0) (h : m ≤ n) : m.log2 ≤ n.log2 :=
  (Nat.le_log2 (by omega)).mpr (Nat.le_trans (Nat.log2_self_le hm) h)

/-- The number of bits decides the exponent, up to the first number of the next one. -/
theorem nearestMagnitude_bounds {n : Nat} (hn : n ≠ 0) :
    (n.log2 + 1023) * leadingBit ≤ nearestMagnitude n ∧
      nearestMagnitude n ≤ (n.log2 + 1024) * leadingBit := by
  obtain ⟨hlow, hhigh⟩ := roundedQuotient_bounds (log2_shiftLeft_53 hn)
  rw [nearestMagnitude, if_neg hn]
  rw [leadingBit_eq] at *
  omega

/-- A larger natural number does not become a smaller double. -/
theorem nearestMagnitude_mono {m n : Nat} (h : m ≤ n) :
    nearestMagnitude m ≤ nearestMagnitude n := by
  by_cases hm : m = 0
  · rw [hm]
    exact Nat.zero_le _
  have hn : n ≠ 0 := by omega
  -- With the same number of bits the significands decide, and otherwise the exponents.
  rcases Nat.eq_or_lt_of_le (log2_mono hm h) with hlog | hlog
  · have hshift : m <<< 53 ≤ n <<< 53 := by
      rw [shiftLeft_eq, shiftLeft_eq]
      exact Nat.mul_le_mul_right _ h
    rw [nearestMagnitude, nearestMagnitude, if_neg hm, if_neg hn, hlog]
    exact Nat.add_le_add_left (roundedQuotient_mono hshift) _
  · have hm' := (nearestMagnitude_bounds hm).2
    have hn' := (nearestMagnitude_bounds hn).1
    rw [leadingBit_eq] at *
    omega

/-- A number of at most 53 bits has another double than any larger one. -/
theorem nearestMagnitude_lt {m n : Nat} (hm : m < Nat.pow 2 53) (h : m < n) :
    nearestMagnitude m < nearestMagnitude n := by
  have hn : n ≠ 0 := by omega
  have hn' := (nearestMagnitude_bounds hn).1
  by_cases hm0 : m = 0
  · rw [hm0, nearestMagnitude, if_pos rfl]
    rw [leadingBit_eq] at *
    omega
  have hlog : m.log2 < 53 := (Nat.log2_lt hm0).mpr hm
  -- Numbers of the same length are shifted alike; a longer number has a larger exponent.
  rcases Nat.eq_or_lt_of_le (log2_mono hm0 (Nat.le_of_lt h)) with heq | hlt
  · have hshift : m <<< (52 - m.log2) < n <<< (52 - m.log2) := by
      rw [shiftLeft_eq, shiftLeft_eq]
      exact Nat.mul_lt_mul_of_pos_right h (Nat.pow_pos (by decide))
    rw [nearestMagnitude_of_lt hm0 hlog, nearestMagnitude_of_lt hn (heq ▸ hlog), ← heq]
    exact Nat.add_lt_add_left hshift _
  · have hbits : (m <<< (52 - m.log2)).log2 = 52 + 0 := by
      rw [log2_shiftLeft hm0]
      omega
    have hhigh := (bounds_of_log2 hbits).2
    rw [show Nat.pow 2 0 = 1 from rfl, Nat.mul_one] at hhigh
    rw [nearestMagnitude_of_lt hm0 hlog]
    rw [leadingBit_eq] at *
    omega

/-! ### Integers -/

/-- The place of the double nearest to `i` in the order of all doubles. -/
def nearestKey (i : Int) : Int :=
  if i < 0 then -(nearestMagnitude i.natAbs : Int) else nearestMagnitude i.natAbs

/-- The key of a normal double is its magnitude with its sign. -/
theorem IsNormal.orderKey?_eq {x : Float} {s : Sign} {m : Nat} {e : Int} (h : IsNormal x s m e) :
    orderKey? x = some (s.apply (magnitude x)) := by
  have hnan : isNaN x = false := decide_eq_false (Nat.not_lt.mpr (Nat.le_of_lt h.magnitude_lt))
  unfold orderKey?
  rw [hnan]
  cases s with
  | positive =>
    have hpositive : isNegative x = false := by
      rw [Bool.eq_false_iff, ne_eq, h.isNegative_iff]
      rintro ⟨⟩
    rw [hpositive]
    rfl
  | negative =>
    rw [h.isNegative_iff.mpr rfl]
    rfl

/-- **The double of an integer** is the nearest one. -/
theorem orderKey?_ofInt {i : Int} (h : i.natAbs < UInt64.size) :
    orderKey? (Float.ofInt i) = some (nearestKey i) := by
  cases i with
  -- Integers from zero on and below are converted by their size, and the sign is put on it.
  | ofNat n =>
    by_cases hn : n = 0
    · rw [hn]
      decide +kernel
    · obtain ⟨m, e, hnormal, hvalue⟩ := exists_isNormal_ofNat hn h
      show orderKey? (Float.ofNat n) = _
      rw [hnormal.orderKey?_eq, hnormal.magnitude_eq, hvalue]
      rfl
  | negSucc n =>
    obtain ⟨m, e, hnormal, hvalue⟩ := exists_isNormal_ofNat (Nat.succ_ne_zero n) h
    show orderKey? (-Float.ofNat (n + 1)) = _
    rw [hnormal.neg.orderKey?_eq, hnormal.neg.magnitude_eq, hvalue, nearestKey,
      if_pos (Int.negSucc_lt_zero n)]
    rfl

/-- A larger integer does not become a smaller double. -/
theorem nearestKey_mono {i j : Int} (h : i ≤ j) : nearestKey i ≤ nearestKey j := by
  -- Below zero the larger size comes first.
  unfold nearestKey
  by_cases hi : i < 0
  · by_cases hj : j < 0
    · have := nearestMagnitude_mono (m := j.natAbs) (n := i.natAbs) (by omega)
      rw [if_pos hi, if_pos hj]
      omega
    · rw [if_pos hi, if_neg hj]
      omega
  · have := nearestMagnitude_mono (m := i.natAbs) (n := j.natAbs) (by omega)
    rw [if_neg hi, if_neg (by omega)]
    omega

/-- Different integers with the same double are at least `2 ^ 53` in size. -/
theorem nearestKey_lt {i j : Int} (h : i < j)
    (hsmall : i.natAbs < Nat.pow 2 53 ∨ j.natAbs < Nat.pow 2 53) : nearestKey i < nearestKey j := by
  -- The smaller size is below `2 ^ 53` in each case, so rounding keeps the two sizes apart.
  unfold nearestKey
  by_cases hi : i < 0
  · by_cases hj : j < 0
    · have hlt := nearestMagnitude_lt (m := j.natAbs) (n := i.natAbs) (by omega) (by omega)
      rw [if_pos hi, if_pos hj]
      omega
    · have hlt := nearestMagnitude_lt (m := 0) (n := i.natAbs) (by decide) (by omega)
      rw [if_pos hi, if_neg hj]
      omega
  · have hlt := nearestMagnitude_lt (m := i.natAbs) (n := j.natAbs) (by omega) (by omega)
    rw [if_neg hi, if_neg (by omega)]
    omega

end SheetFormula.Binary64
