/-
**Widening loses nothing.**

A finite number of a format is determined by its magnitude, and the number nearest to a quotient
that the format holds is that quotient itself. Every magnitude of single precision is also one of
double precision, so a single that is widened and then narrowed is the same single.

* `Magnitude.value`: the rational number that a magnitude stands for;
* `Format.Holds`, `Format.pattern`: the magnitudes of a format and their bits;
* `Format.nearest_of_holds`: rounding changes nothing about a number of the format;
* `Single.narrow_widen`: narrowing undoes widening.
-/

import Mathlib
import Storybook.Number.Binary

namespace Storybook

/-! ### Values of magnitudes -/

/-- The rational number that a magnitude stands for. -/
def Magnitude.value (magnitude : Magnitude) : ℚ :=
  magnitude.significand * 2 ^ magnitude.exponent

theorem powerOfTwo_eq (n : Nat) : powerOfTwo n = 2 ^ n :=
  rfl

theorem powerOfTwo_pos (n : Nat) : 0 < powerOfTwo n :=
  Nat.two_pow_pos n

/-- **The two powers of a signed exponent**, one of which is one. -/
theorem powers_div (exponent : Int) :
    (powerOfTwo exponent.toNat : ℚ) / powerOfTwo (-exponent).toNat = 2 ^ exponent := by
  rw [powerOfTwo_eq, powerOfTwo_eq]
  obtain ⟨n, rfl | rfl⟩ := exponent.eq_nat_or_neg
  · simp
  · simp

theorem Magnitude.value_eq_div (magnitude : Magnitude) :
    magnitude.value = (magnitude.numerator : ℚ) / magnitude.denominator := by
  rw [value, numerator, denominator, ← powers_div, ← mul_div_assoc, Nat.cast_mul]

theorem Magnitude.denominator_pos (magnitude : Magnitude) : 0 < magnitude.denominator :=
  powerOfTwo_pos _

theorem divNearest_mul (n : Nat) {unit : Nat} (positive : 0 < unit) :
    divNearest (n * unit) unit = n := by
  have exact : n * unit % unit = 0 := Nat.mul_mod_left n unit
  rw [divNearest, exact, Nat.mul_div_cancel n positive, if_neg]
  omega

namespace Format

variable {format : Format} {magnitude : Magnitude} {bits numerator denominator : Nat}

/-! ### The magnitudes of a format -/

/-- The bits of a magnitude of the format. -/
def pattern (format : Format) (magnitude : Magnitude) : Nat :=
  (magnitude.exponent - format.lowest).toNat * format.binade + magnitude.significand

/-- **The format holds a magnitude**: its significand has full length or its exponent is the lowest
one, and it is not too large. -/
structure Holds (format : Format) (magnitude : Magnitude) : Prop where
  lowest_le : format.lowest ≤ magnitude.exponent
  short : magnitude.significand < 2 * format.binade
  full : format.binade ≤ magnitude.significand ∨ magnitude.exponent = format.lowest
  finite : format.pattern magnitude < format.infinity

theorem binade_pos (format : Format) : 0 < format.binade :=
  powerOfTwo_pos _

theorem binade_le_infinity (wide : 1 < powerOfTwo format.exponentBits) :
    format.binade ≤ format.infinity :=
  Nat.le_mul_of_pos_left _ (by omega)

/-- **What a finite bit pattern stands for is held**, and the pattern is that of the magnitude. -/
theorem holds_of_magnitude? (wide : 1 < powerOfTwo format.exponentBits)
    (stands : format.magnitude? bits = some magnitude) :
    format.Holds magnitude ∧ format.pattern magnitude = bits := by
  have positive := format.binade_pos
  have parts : format.binade * (bits / format.binade) + bits % format.binade = bits :=
    Nat.div_add_mod bits format.binade
  have below : bits % format.binade < format.binade := Nat.mod_lt _ positive
  unfold magnitude? at stands
  simp only at stands
  split at stands
  case isTrue none =>
    -- The exponent field is empty, so the whole pattern is the significand.
    rw [none, Nat.mul_zero, Nat.zero_add] at parts
    cases stands
    have same : format.pattern ⟨bits % format.binade, format.lowest⟩ = bits := by
      simp [pattern, parts]
    refine ⟨⟨le_refl _, by simp only; omega, .inr rfl, ?_⟩, same⟩
    have := binade_le_infinity wide
    omega
  case isFalse some =>
    split at stands
    case isFalse => cases stands
    case isTrue fits =>
      cases stands
      generalize bits / format.binade = field at *
      have same : format.pattern ⟨format.binade + bits % format.binade,
          format.lowest + (field - 1 : Nat)⟩ = bits := by
        obtain ⟨before, rfl⟩ : ∃ before, field = before + 1 := ⟨field - 1, by omega⟩
        rw [Nat.mul_add_one, Nat.mul_comm] at parts
        simp only [pattern, Nat.add_sub_cancel, add_sub_cancel_left, Int.toNat_natCast]
        omega
      refine ⟨⟨by simp only; omega, by simp only; omega, .inl (by simp only; omega), ?_⟩, same⟩
      rw [same, infinity, ← parts]
      calc format.binade * field + bits % format.binade
          < format.binade * (field + 1) := by rw [Nat.mul_add_one]; omega
        _ ≤ format.binade * (powerOfTwo format.exponentBits - 1) :=
            Nat.mul_le_mul_left _ fits
        _ = _ := Nat.mul_comm _ _

/-- **The bits of a magnitude stand for it.** -/
theorem Holds.magnitude?_pattern (holds : format.Holds magnitude) :
    format.magnitude? (format.pattern magnitude) = some magnitude := by
  obtain ⟨significand, exponent⟩ := magnitude
  have positive := format.binade_pos
  obtain ⟨raised, rfl⟩ : ∃ raised : Nat, exponent = format.lowest + raised := by
    have lower := holds.lowest_le
    exact ⟨(exponent - format.lowest).toNat, by simp only at lower; omega⟩
  have written : format.pattern ⟨significand, format.lowest + raised⟩ =
      raised * format.binade + significand := by
    simp [pattern]
  have finite := holds.finite
  have short := holds.short
  rw [written] at finite ⊢
  simp only at short
  by_cases small : significand < format.binade
  · -- Only the lowest exponent goes with a short significand.
    have lowest : raised = 0 := by
      have full := holds.full
      simp only at full
      omega
    subst lowest
    simp [magnitude?, Nat.div_eq_of_lt small, Nat.mod_eq_of_lt small]
  · obtain ⟨fraction, rfl⟩ : ∃ fraction, significand = format.binade + fraction :=
      ⟨significand - format.binade, by omega⟩
    have below : fraction < format.binade := by omega
    have shape : raised * format.binade + (format.binade + fraction) =
        fraction + format.binade * (raised + 1) := by
      rw [Nat.mul_add_one, Nat.mul_comm]
      omega
    have field : (raised * format.binade + (format.binade + fraction)) / format.binade =
        raised + 1 := by
      rw [shape, Nat.add_mul_div_left _ _ positive, Nat.div_eq_of_lt below, Nat.zero_add]
    have rest : (raised * format.binade + (format.binade + fraction)) % format.binade =
        fraction := by
      rw [shape, Nat.add_mul_mod_self_left, Nat.mod_eq_of_lt below]
    have fits : raised + 1 < powerOfTwo format.exponentBits - 1 := by
      rw [← field]
      exact (Nat.div_lt_iff_lt_mul positive).2 finite
    simp [magnitude?, field, rest, fits]

/-! ### Rounding -/

/-- The logarithm of a quotient is the difference of the two logarithms, or one less. -/
theorem log_div (above : 0 < numerator) (beneath : 0 < denominator) :
    (Nat.log2 numerator : Int) - Nat.log2 denominator - 1 ≤
        Int.log 2 ((numerator : ℚ) / denominator) ∧
      Int.log 2 ((numerator : ℚ) / denominator) <
        (Nat.log2 numerator : Int) - Nat.log2 denominator + 1 := by
  have least : (2 : ℚ) ^ Nat.log2 numerator ≤ numerator := by
    exact_mod_cast Nat.log2_self_le (by omega)
  have most : (numerator : ℚ) < 2 ^ (Nat.log2 numerator + 1) := by
    exact_mod_cast Nat.lt_log2_self
  have least' : (2 : ℚ) ^ Nat.log2 denominator ≤ denominator := by
    exact_mod_cast Nat.log2_self_le (by omega)
  have most' : (denominator : ℚ) < 2 ^ (Nat.log2 denominator + 1) := by
    exact_mod_cast Nat.lt_log2_self
  have below : (0 : ℚ) < denominator := by exact_mod_cast beneath
  have positive : (0 : ℚ) < (numerator : ℚ) / denominator := by positivity
  rw [← Int.zpow_le_iff_le_log one_lt_two positive, ← Int.lt_zpow_iff_log_lt one_lt_two positive,
    Nat.cast_ofNat]
  constructor
  · rw [le_div_iff₀ below]
    calc (2 : ℚ) ^ ((Nat.log2 numerator : Int) - Nat.log2 denominator - 1) * denominator
        ≤ 2 ^ ((Nat.log2 numerator : Int) - Nat.log2 denominator - 1) *
            2 ^ (Nat.log2 denominator + 1) := by gcongr
      _ = 2 ^ Nat.log2 numerator := by
          rw [← zpow_natCast, ← zpow_add₀ two_ne_zero, ← zpow_natCast]
          congr 1
          omega
      _ ≤ numerator := least
  · rw [div_lt_iff₀ below]
    calc (numerator : ℚ) < 2 ^ (Nat.log2 numerator + 1) := most
      _ = 2 ^ ((Nat.log2 numerator : Int) - Nat.log2 denominator + 1) *
            2 ^ Nat.log2 denominator := by
          rw [← zpow_natCast, ← zpow_natCast, ← zpow_add₀ two_ne_zero]
          congr 1
          omega
      _ ≤ 2 ^ ((Nat.log2 numerator : Int) - Nat.log2 denominator + 1) * denominator := by gcongr

/-- **The exponent of a quotient by its logarithm.** The guess may be one too large, and the
comparison finds that out. -/
theorem exponentFor_eq (above : 0 < numerator) (beneath : 0 < denominator) :
    format.exponentFor numerator denominator =
      max (Int.log 2 ((numerator : ℚ) / denominator) - (format.precision - 1 : Nat))
        format.lowest := by
  have below : (0 : ℚ) < denominator := by exact_mod_cast beneath
  have positive : (0 : ℚ) < (numerator : ℚ) / denominator := by positivity
  obtain ⟨least, most⟩ := log_div above beneath
  have compared (guess : Int) :
      numerator * powerOfTwo (-guess).toNat <
          format.binade * (denominator * powerOfTwo guess.toNat) ↔
        Int.log 2 ((numerator : ℚ) / denominator) < (format.precision - 1 : Nat) + guess := by
    have power : (0 : ℚ) < powerOfTwo (-guess).toNat := by
      exact_mod_cast powerOfTwo_pos _
    rw [← Int.lt_zpow_iff_log_lt one_lt_two positive, Nat.cast_ofNat, zpow_add₀ two_ne_zero,
      zpow_natCast, ← powers_div, ← mul_div_assoc, lt_div_iff₀ power, div_mul_eq_mul_div,
      div_lt_iff₀ below]
    rw [mul_right_comm, mul_assoc, binade, powerOfTwo_eq (format.precision - 1)]
    exact_mod_cast Iff.rfl
  simp only [exponentFor, compared]
  congr 1
  split <;> omega

/-- **A number of the format has the exponent that a quotient of its value gets.** -/
theorem Holds.exponentFor_eq (holds : format.Holds magnitude) (beneath : 0 < denominator)
    (some : 0 < magnitude.significand)
    (same : (numerator : ℚ) / denominator = magnitude.value) :
    format.exponentFor numerator denominator = magnitude.exponent := by
  have positive : 0 < magnitude.value := by
    rw [Magnitude.value]
    positivity
  have above : 0 < numerator := by
    rcases Nat.eq_zero_or_pos numerator with none | above
    · rw [none, Nat.cast_zero, zero_div] at same
      exact absurd same positive.ne
    · exact above
  have log_lt : Int.log 2 magnitude.value <
      (format.precision - 1 : Nat) + 1 + magnitude.exponent := by
    rw [← Int.lt_zpow_iff_log_lt one_lt_two positive, Nat.cast_ofNat, zpow_add₀ two_ne_zero,
      Magnitude.value]
    have short : (magnitude.significand : ℚ) < 2 ^ ((format.precision - 1 : Nat) + 1 : Int) := by
      rw [zpow_add₀ two_ne_zero, zpow_natCast, zpow_one, mul_comm]
      exact_mod_cast holds.short
    gcongr
  have le_log (full : format.binade ≤ magnitude.significand) :
      (format.precision - 1 : Nat) + magnitude.exponent ≤ Int.log 2 magnitude.value := by
    rw [← Int.zpow_le_iff_le_log one_lt_two positive, Nat.cast_ofNat, zpow_add₀ two_ne_zero,
      Magnitude.value]
    have long : (2 : ℚ) ^ ((format.precision - 1 : Nat) : Int) ≤ magnitude.significand := by
      rw [zpow_natCast]
      exact_mod_cast full
    gcongr
  have lowest_le := holds.lowest_le
  rw [Format.exponentFor_eq above beneath, same]
  rcases holds.full with full | lowest
  · have := le_log full
    omega
  · omega

/-- **Rounding changes nothing about a number of the format.** -/
theorem nearest_of_holds (holds : format.Holds magnitude) (beneath : 0 < denominator)
    (same : (numerator : ℚ) / denominator = magnitude.value) :
    format.nearest numerator denominator = format.pattern magnitude := by
  have below : (0 : ℚ) < denominator := by exact_mod_cast beneath
  rcases Nat.eq_zero_or_pos magnitude.significand with none | some
  · have nothing : numerator = 0 := by
      rw [Magnitude.value, none, Nat.cast_zero, zero_mul, div_eq_zero_iff] at same
      rcases same with nothing | nothing
      · exact_mod_cast nothing
      · exact absurd nothing below.ne'
    have lowest : magnitude.exponent = format.lowest := by
      have positive := format.binade_pos
      rcases holds.full with full | lowest
      · omega
      · exact lowest
    simp [nearest, nothing, pattern, lowest, none]
  · have exponent := holds.exponentFor_eq beneath some same
    have exact : numerator * powerOfTwo (-magnitude.exponent).toNat =
        magnitude.significand * (denominator * powerOfTwo magnitude.exponent.toNat) := by
      have power : (0 : ℚ) < powerOfTwo (-magnitude.exponent).toNat := by
        exact_mod_cast powerOfTwo_pos _
      rw [Magnitude.value, ← powers_div, ← mul_div_assoc, div_eq_div_iff below.ne' power.ne',
        mul_assoc, mul_comm (powerOfTwo magnitude.exponent.toNat : ℚ)] at same
      exact_mod_cast same
    have nonzero : numerator ≠ 0 := by
      rintro rfl
      rw [Nat.zero_mul, zero_eq_mul] at exact
      have := powerOfTwo_pos magnitude.exponent.toNat
      rcases exact with none | none
      · omega
      · exact absurd none (Nat.mul_pos beneath this).ne'
    rw [nearest, if_neg nonzero]
    simp only [exponent, exact]
    rw [divNearest_mul _ (Nat.mul_pos beneath (powerOfTwo_pos _))]
    exact Nat.min_eq_left holds.finite.le

/-- **Every number of single precision is one of double precision**: its significand is filled up
with zeros. -/
theorem Holds.widen (holds : single.Holds magnitude) :
    ∃ wide, double.Holds wide ∧ wide.value = magnitude.value := by
  obtain ⟨significand, exponent⟩ := magnitude
  have short : significand < 2 ^ 24 := holds.short
  have lower : -149 ≤ exponent := holds.lowest_le
  have upper : exponent ≤ 105 := by
    have finite : (exponent - (-149)).toNat * 2 ^ 23 + significand < 255 * 2 ^ 23 := holds.finite
    omega
  rcases Nat.eq_zero_or_pos significand with rfl | some
  · refine ⟨⟨0, -1074⟩, ⟨?_, ?_, ?_, ?_⟩, ?_⟩
    · decide
    · decide
    · exact .inr (by decide)
    · decide
    · simp [Magnitude.value]
  · obtain ⟨zeros, length⟩ : ∃ zeros, Nat.log2 significand + zeros = 52 := by
      have := (Nat.log2_lt (by omega)).2 short
      exact ⟨52 - Nat.log2 significand, by omega⟩
    have log_lt := (Nat.log2_lt (by omega)).2 short
    have long : 2 ^ 52 ≤ significand * 2 ^ zeros := by
      rw [← length, Nat.pow_add]
      exact Nat.mul_le_mul_right _ (Nat.log2_self_le (by omega))
    have most : significand * 2 ^ zeros < 2 * 2 ^ 52 := by
      rw [← length, Nat.pow_add, ← Nat.mul_assoc, ← Nat.pow_succ']
      exact Nat.mul_lt_mul_of_pos_right Nat.lt_log2_self (Nat.two_pow_pos _)
    refine ⟨⟨significand * 2 ^ zeros, exponent - zeros⟩, ⟨?_, ?_, ?_, ?_⟩, ?_⟩
    · show -1074 ≤ exponent - zeros
      omega
    · exact most
    · exact .inl long
    · show (exponent - zeros - (-1074)).toNat * 2 ^ 52 + significand * 2 ^ zeros < 2047 * 2 ^ 52
      omega
    · rw [Magnitude.value, Magnitude.value, Nat.cast_mul, mul_assoc, Nat.cast_pow, Nat.cast_ofNat,
        ← zpow_natCast, ← zpow_add₀ two_ne_zero, add_sub_cancel]

end Format

/-! ### Bits of singles and doubles -/

namespace Double

/-- A double with finite bits has these bits. -/
theorem toBits_ofSigned (negative : Bool) {bits : Nat} (finite : bits < Format.double.infinity) :
    (ofSigned negative bits).toBits.toNat = Format.double.signed negative bits := by
  have small : bits < 2047 * 2 ^ 52 := finite
  let word := UInt64.ofNat (Format.double.signed negative bits)
  have toNat : word.toNat = Format.double.signed negative bits := by
    apply UInt64.toNat_ofNat_of_lt'
    cases negative
    · show bits < 2 ^ 64
      omega
    · show 2 ^ 63 + bits < 2 ^ 64
      omega
  have field : (word.toNat >>> 52) % 2 ^ 11 = bits / 2 ^ 52 := by
    rw [toNat, Nat.shiftRight_eq_div_pow]
    cases negative
    · show bits / 2 ^ 52 % 2 ^ 11 = bits / 2 ^ 52
      omega
    · show (2 ^ 63 + bits) / 2 ^ 52 % 2 ^ 11 = bits / 2 ^ 52
      omega
  have valid : Float.Model.Format.binary64.Valid word.toBitVec := by
    constructor
    intro full
    have full : (word.toNat >>> 52) % 2 ^ 11 = 2 ^ 11 - 1 := congrArg BitVec.toNat full
    omega
  have bits_eq : (Float.ofBits word).toBits = word := by
    exact congrArg Float.toBits (Float.ofBits_toBits ⟨⟨word, valid⟩⟩)
  rw [ofSigned, bits_eq, toNat]

theorem isNegative_ofSigned (negative : Bool) {bits : Nat}
    (finite : bits < Format.double.infinity) : isNegative (ofSigned negative bits) = negative := by
  have small : bits < 2047 * 2 ^ 52 := finite
  rw [isNegative, toBits_ofSigned negative finite]
  cases negative
  · show decide (2 ^ 63 ≤ bits) = false
    rw [decide_eq_false_iff_not]
    omega
  · show decide (2 ^ 63 ≤ 2 ^ 63 + bits) = true
    rw [decide_eq_true_iff]
    omega

theorem unsigned_ofSigned (negative : Bool) {bits : Nat}
    (finite : bits < Format.double.infinity) : unsigned (ofSigned negative bits) = bits := by
  have small : bits < 2047 * 2 ^ 52 := finite
  rw [unsigned, toBits_ofSigned negative finite]
  cases negative
  · show bits % 2 ^ 63 = bits
    omega
  · show (2 ^ 63 + bits) % 2 ^ 63 = bits
    omega

end Double

namespace Single

/-- A finite single has an exponent field that is not full. -/
theorem field_lt_of_isFinite {x : Single} (finite : x.isFinite) :
    x.toBits.toNat % Format.single.signBit / Format.single.binade <
      powerOfTwo Format.single.exponentBits - 1 := by
  show x.toBits.toNat % 2 ^ 31 / 2 ^ 23 < 255
  have short : x.toBits.toNat < 2 ^ 32 := x.toBits.toNat_lt
  by_contra large
  have full : @Float.Model.UnpackedFloat.unpackExponent .binary32 x.toBits.toBitVec = -1#8 := by
    apply BitVec.eq_of_toNat_eq
    show (x.toBits.toNat >>> 23) % 2 ^ 8 = 2 ^ 8 - 1
    rw [Nat.shiftRight_eq_div_pow]
    omega
  have finite : (Float.Model.UnpackedFloat.unpack .binary32 x.toBits.toBitVec).isFinite := finite
  rw [Float.Model.UnpackedFloat.unpack, if_pos full] at finite
  split at finite <;> cases finite

theorem magnitude?_of_isFinite {x : Single} (finite : x.isFinite) :
    ∃ magnitude, magnitude? x = some magnitude := by
  have lt := field_lt_of_isFinite finite
  rw [magnitude?, Format.magnitude?]
  split <;> exact ⟨_, rfl⟩

/-- A single is its sign and its other bits. -/
theorem ofSigned_isNegative (x : Single) :
    ofSigned (isNegative x) (x.toBits.toNat % Format.single.signBit) = x := by
  have small : x.toBits.toNat < 2 ^ 32 := x.toBits.toNat_lt
  have whole : Format.single.signed (isNegative x) (x.toBits.toNat % Format.single.signBit) =
      x.toBits.toNat := by
    show (if decide (2 ^ 31 ≤ x.toBits.toNat) = true then 2 ^ 31 + x.toBits.toNat % 2 ^ 31
      else x.toBits.toNat % 2 ^ 31) = x.toBits.toNat
    simp only [decide_eq_true_iff]
    split <;> omega
  rw [ofSigned, whole, UInt32.ofNat_toNat, Float32.ofBits_toBits]

/-- **Narrowing undoes widening.** -/
theorem narrow_widen {x : Single} (finite : x.isFinite) : narrow (widen x) = x := by
  obtain ⟨magnitude, stands⟩ := magnitude?_of_isFinite finite
  obtain ⟨holds, same⟩ := Format.holds_of_magnitude? (by decide) stands
  obtain ⟨wide, holds', value⟩ := holds.widen
  have widened : widen x = Double.ofSigned (isNegative x) (Format.double.pattern wide) := by
    rw [widen, stands]
    simp only [Double.ofQuotient]
    rw [Format.nearest_of_holds holds' magnitude.denominator_pos
      (by rw [value, Magnitude.value_eq_div])]
  rw [narrow, Double.magnitude?, widened, Double.unsigned_ofSigned _ holds'.finite,
    holds'.magnitude?_pattern]
  simp only [ofQuotient]
  rw [Double.isNegative_ofSigned _ holds'.finite, Format.nearest_of_holds holds
    wide.denominator_pos (by rw [← value, Magnitude.value_eq_div]), same]
  exact ofSigned_isNegative x

end Single

end Storybook
