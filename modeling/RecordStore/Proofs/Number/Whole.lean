import Mathlib.Algebra.Ring.Nat
import RecordStore.Proofs.Value.Order

/-!
# Whole numbers in double precision

A finite number is a significand of at most fifty-three bits, raised by its exponent field. Rounding
a count of units that has this shape gives the number back, so an integer that was read off a number
is that number again when it is rounded. Only the sign of zero is lost.
-/

namespace RecordStore.Binary64

variable {number : Binary64} {whole : Int}

/-- The bits of a magnitude are a significand and, above it, how far the significand is raised. The
raise can be read off the magnitude itself. -/
theorem magnitude_shape (number : Binary64) :
    ∃ significand raise, number.magnitudeUnits = significand * 2 ^ raise ∧
      raise * hiddenBit + significand = number.magnitudeBits ∧
      number.magnitudeUnits.log2 - 52 = raise := by
  have hidden : hiddenBit = 2 ^ 52 := rfl
  have below : number.magnitudeBits % hiddenBit < hiddenBit := Nat.mod_lt _ (by decide)
  have parts := Nat.div_add_mod number.magnitudeBits hiddenBit
  unfold magnitudeUnits
  dsimp only
  generalize number.magnitudeBits % hiddenBit = fraction at *
  generalize number.magnitudeBits / hiddenBit = field at *
  rw [hidden] at *
  by_cases subnormal : field = 0
  · subst subnormal
    refine ⟨fraction, 0, by simp, by omega, ?_⟩
    rw [if_pos rfl]
    by_cases zero : fraction = 0
    · subst zero
      rfl
    · have small := (Nat.log2_lt zero).mpr below
      omega
  · obtain ⟨raise, rfl⟩ := Nat.exists_eq_add_one_of_ne_zero subnormal
    rw [if_neg subnormal, Nat.shiftLeft_eq, Nat.add_sub_cancel]
    refine ⟨2 ^ 52 + fraction, raise, rfl, by omega, ?_⟩
    have some : (2 ^ 52 + fraction) * 2 ^ raise ≠ 0 :=
      Nat.ne_of_gt (Nat.mul_pos (by omega) (Nat.two_pow_pos raise))
    have length : ((2 ^ 52 + fraction) * 2 ^ raise).log2 = 52 + raise := by
      rw [Nat.log2_eq_iff some, Nat.pow_add, show 52 + raise + 1 = 53 + raise by omega,
        Nat.pow_add]
      exact ⟨Nat.mul_le_mul_right _ (by omega),
        Nat.mul_lt_mul_of_pos_right (by omega) (Nat.two_pow_pos raise)⟩
    omega

/-- A magnitude that counts whole ones is its own rounding. Proof: nothing is cut off, so nothing is
rounded. -/
theorem nearest_magnitude_of_units {ones : Nat} (finite : number.isFinite = true)
    (counts : ones * unitsInOne = number.magnitudeUnits) :
    nearestMagnitude ones 1 = number.magnitudeBits := by
  obtain ⟨significand, raise, units, bits, reads⟩ := magnitude_shape number
  have bounded : number.magnitudeBits < infinityBits := by simpa [isFinite] using finite
  have kept : significand * 2 ^ raise / 2 ^ raise = significand :=
    Nat.mul_div_cancel _ (Nat.two_pow_pos raise)
  have step : (2 : Nat) ^ raise ≠ 0 := Nat.ne_of_gt (Nat.two_pow_pos raise)
  unfold nearestMagnitude
  simp only [counts, Nat.div_one, reads]
  simp only [units, Nat.shiftRight_eq_div_pow, Nat.shiftLeft_eq, Nat.one_mul, kept, Nat.sub_self,
    Nat.mul_zero, Nat.not_lt_zero, step, decide_false, Bool.false_and, Bool.or_self,
    Bool.false_eq_true, if_false, bits]
  exact Nat.min_eq_left (Nat.le_of_lt bounded)

/-- The bits of a number are those of its magnitude, and the sign above them. -/
theorem bits_eq (number : Binary64) :
    number.bits.toNat =
      if number.isNegative then signBit + number.magnitudeBits else number.magnitudeBits := by
  have bound := number.bits.toNat_lt
  unfold isNegative magnitudeBits signBit
  split <;> simp only [decide_eq_true_eq] at * <;> omega

/-- A number that is whole counts its units in ones. -/
theorem units_of_to_int? (read : number.toInt? = some whole) :
    number.isFinite = true ∧ number.units = whole * unitsInOne := by
  unfold toInt? at read
  split at read
  · rename_i exact
    cases read
    obtain ⟨finite, divides⟩ := Bool.and_eq_true_iff.mp exact
    exact ⟨finite, (Int.ediv_mul_cancel (Int.dvd_of_emod_eq_zero (by simpa using divides))).symm⟩
  · cases read

/-- An integer that was read off a number is the number again when it is rounded, but for the sign
of zero. -/
theorem of_int_of_to_int? (read : number.toInt? = some whole) :
    ofInt whole = number ∨ (number.magnitudeBits = 0 ∧ ofInt whole = zero) := by
  obtain ⟨finite, counts⟩ := units_of_to_int? read
  have magnitude : whole.natAbs * unitsInOne = number.magnitudeUnits := by
    have sizes := congrArg Int.natAbs counts
    rw [Int.natAbs_mul, Int.natAbs_natCast] at sizes
    rw [← sizes, units]
    split <;> simp
  have rounded := nearest_magnitude_of_units finite magnitude
  unfold ofInt ofRatio
  simp only [rounded]
  by_cases none : whole = 0
  · right
    subst none
    have zeroUnits : number.magnitudeUnits = 0 := by simpa using magnitude.symm
    have zeroBits : number.magnitudeBits = 0 := by
      rw [← rounded]
      decide +kernel
    exact ⟨zeroBits, by rw [zeroBits]; rfl⟩
  · left
    have sign : decide (whole < 0) = number.isNegative := by
      have scale := Stored.units_in_one_positive
      unfold units at counts
      cases negative : number.isNegative with
      | true =>
        simp only [negative, if_true] at counts
        refine decide_eq_true (Int.not_le.mp fun notNegative => ?_)
        have positive := Int.mul_pos (show 0 < whole by omega) scale
        omega
      | false =>
        simp only [negative, Bool.false_eq_true, if_false] at counts
        refine decide_eq_false fun below => ?_
        have negative := Int.mul_neg_of_neg_of_pos below scale
        omega
    rw [sign, ← bits_eq, UInt64.ofNat_toNat]

example : (ofInt 300).toInt? = some 300 := by decide +kernel

/-- The nearest magnitude of one or more is not nothing. -/
theorem nearest_magnitude_positive {ones : Nat} (some : ones ≠ 0) :
    0 < nearestMagnitude ones 1 := by
  have fine : 2 ^ 53 ≤ unitsInOne := by decide +kernel
  have large : 2 ^ 53 ≤ ones * unitsInOne :=
    Nat.le_trans fine (Nat.le_mul_of_pos_left unitsInOne (Nat.pos_of_ne_zero some))
  have wide : 53 ≤ (ones * unitsInOne).log2 :=
    (Nat.le_log2 (Nat.ne_of_gt (Nat.lt_of_lt_of_le (Nat.two_pow_pos 53) large))).mpr large
  unfold nearestMagnitude
  simp only [Nat.div_one]
  generalize (ones * unitsInOne).log2 = width at wide ⊢
  refine Nat.lt_min.mpr ⟨?_, by decide⟩
  have raised : 0 < (width - 52) * hiddenBit := Nat.mul_pos (by omega) (by decide)
  omega

/-- An integer is rounded to no negative zero. -/
theorem of_int_eq_zero {value : Int} (nothing : (ofInt value).magnitudeBits = 0) :
    ofInt value = zero := by
  by_cases none : value = 0
  · subst none
    decide +kernel
  · have positive := nearest_magnitude_positive (Int.natAbs_ne_zero.mpr none)
    have bounded : nearestMagnitude value.natAbs 1 ≤ infinityBits := Nat.min_le_right _ _
    unfold magnitudeBits ofInt ofRatio at nothing
    generalize nearestMagnitude value.natAbs 1 = magnitude at positive bounded nothing
    simp only [UInt64.toNat_ofNat'] at nothing
    unfold signBit infinityBits at *
    split at nothing <;> omega

/-- An integer that was rounded and read off the number again is rounded to the same number. -/
theorem of_int_again {value : Int} (read : (ofInt value).toInt? = some whole) :
    ofInt whole = ofInt value := by
  rcases of_int_of_to_int? read with same | ⟨nothing, isZero⟩
  · exact same
  · rw [isZero, of_int_eq_zero nothing]

/-- A number that is one is the same as itself. -/
theorem same_number_self (defined : number.isNaN = false) : number.sameNumber number = true := by
  simp [sameNumber, defined, order]

/-- An integer that was read off a number is the same number. -/
theorem same_number_of_int (read : number.toInt? = some whole) :
    (ofInt whole).sameNumber number = true := by
  obtain ⟨finite, -⟩ := units_of_to_int? read
  have defined : number.isNaN = false := by
    have bounded : number.magnitudeBits < infinityBits := by simpa [isFinite] using finite
    simpa [isNaN] using Nat.le_of_lt bounded
  rcases of_int_of_to_int? read with same | ⟨nothing, isZero⟩
  · rw [same]
    exact same_number_self defined
  · have here : number.position = 0 := by
      simp [position, isInfinite, units, magnitudeUnits, nothing, infinityBits]
    have there : zero.position = 0 := by decide +kernel
    rw [isZero]
    simp only [sameNumber, defined, order, here, there]
    decide +kernel

end RecordStore.Binary64
