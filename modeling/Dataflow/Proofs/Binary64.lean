import Mathlib.Algebra.Order.Field.Power
import Mathlib.Data.Nat.Bitwise
import Mathlib.Tactic.Linarith
import Mathlib.Tactic.Positivity
import Mathlib.Tactic.Ring
import Dataflow.Binary64.Reading

/-!
# Doubles that are read are finite

Rounding a ratio below a power of two gives a double whose exponent is not far above this power.
Reading keeps the leading digits, which fit a machine word, and scales them down by any power of
ten or up by one product, where an infinity is refused. So what is read is finite, and a number of
a machine word can always be read.
-/

namespace Dataflow.Binary64

variable {num den : Nat} {k : Int} {x y : Binary64}

lemma two_pow_toNat_div (k : Int) : (2 : ℚ) ^ k.toNat / 2 ^ (-k).toNat = 2 ^ k := by
  rw [div_eq_iff (by positivity), ← zpow_natCast, ← zpow_natCast, ← zpow_add₀ (by norm_num)]
  congr 1
  omega

/-- A ratio lies between two powers of two. -/
lemma floorLog2_spec (hnum : 0 < num) (hden : 0 < den) :
    (2 : ℚ) ^ floorLog2 num den ≤ num / den ∧ (num / den : ℚ) < 2 ^ (floorLog2 num den + 1) := by
  have hnum_le : (2 : ℚ) ^ (num.log2 : Int) ≤ num := by
    exact_mod_cast Nat.log2_self_le hnum.ne'
  have hnum_lt : (num : ℚ) < 2 ^ ((num.log2 : Int) + 1) := by
    exact_mod_cast Nat.lt_log2_self (n := num)
  have hden_le : (2 : ℚ) ^ (den.log2 : Int) ≤ den := by
    exact_mod_cast Nat.log2_self_le hden.ne'
  have hden_lt : (den : ℚ) < 2 ^ ((den.log2 : Int) + 1) := by
    exact_mod_cast Nat.lt_log2_self (n := den)
  have hden' : (0 : ℚ) < den := by exact_mod_cast hden
  have htwo : (2 : ℚ) ≠ 0 := by norm_num
  set guess : Int := (num.log2 : Int) - den.log2 with hguess
  have hcmp : den * Nat.pow 2 guess.toNat ≤ num * Nat.pow 2 (-guess).toNat ↔
      (2 : ℚ) ^ guess ≤ num / den := by
    rw [← two_pow_toNat_div, div_le_div_iff₀ (by positivity) hden', ← Nat.cast_le (α := ℚ)]
    push_cast [Nat.pow_eq]
    rw [mul_comm (den : ℚ)]
  rw [floorLog2, ← hguess]
  split_ifs with h
  · refine ⟨hcmp.mp h, ?_⟩
    rw [div_lt_iff₀ hden']
    calc (num : ℚ) < 2 ^ ((num.log2 : Int) + 1) := hnum_lt
      _ = 2 ^ (guess + 1) * 2 ^ (den.log2 : Int) := by
        rw [← zpow_add₀ htwo]
        congr 1
        omega
      _ ≤ 2 ^ (guess + 1) * den := by gcongr
  · refine ⟨?_, ?_⟩
    · rw [le_div_iff₀ hden']
      calc (2 : ℚ) ^ (guess - 1) * den ≤ 2 ^ (guess - 1) * 2 ^ ((den.log2 : Int) + 1) := by gcongr
        _ = 2 ^ (num.log2 : Int) := by
          rw [← zpow_add₀ htwo]
          congr 1
          omega
        _ ≤ num := hnum_le
    · rw [sub_add_cancel]
      exact not_le.mp (mt hcmp.mpr h)

lemma roundHalfEven_le (num den : Nat) : roundHalfEven num den ≤ num / den + 1 := by
  rw [roundHalfEven]
  split_ifs <;> omega

/-- The magnitude that a ratio is rounded to, where it is not beyond the greatest double. -/
def ratioMagnitude (num den : Nat) : Nat :=
  let scale : Int := max (floorLog2 num den - 52) (-1074)
  (scale + 1074).toNat * Nat.pow 2 52 +
    roundHalfEven (num * Nat.pow 2 (-scale).toNat) (den * Nat.pow 2 scale.toNat)

lemma ofRatio_zero (negative : Bool) (den : Nat) : ofRatio negative 0 den = zero negative :=
  if_pos rfl

lemma ofRatio_eq (negative : Bool) (hnum : num ≠ 0) :
    ofRatio negative num den =
      if 2047 * Nat.pow 2 52 ≤ ratioMagnitude num den then infinity negative
      else ⟨UInt64.ofNat (ratioMagnitude num den + if negative then Nat.pow 2 63 else 0)⟩ := by
  rw [ofRatio, if_neg hnum]
  rfl

lemma magnitude_ofNat {negative : Bool} {magnitude : Nat} (h : magnitude < 2 ^ 63) :
    Binary64.magnitude ⟨UInt64.ofNat (magnitude + if negative then Nat.pow 2 63 else 0)⟩ =
      magnitude := by
  have hlt : (magnitude + if negative then Nat.pow 2 63 else 0) < 2 ^ 64 := by
    cases negative <;> norm_num <;> omega
  rw [Binary64.magnitude, UInt64.toNat_ofNat_of_lt' hlt]
  cases negative <;> norm_num <;> omega

/-- The quotient that is rounded has no more digits than a significand. -/
lemma ratioQuotient_lt (hnum : 0 < num) (hden : 0 < den) {scale : Int}
    (hscale : max (floorLog2 num den - 52) (-1074) = scale) :
    num * Nat.pow 2 (-scale).toNat / (den * Nat.pow 2 scale.toNat) < 2 ^ 53 := by
  obtain ⟨-, hhigh⟩ := floorLog2_spec hnum hden
  have hden' : (0 : ℚ) < den := by exact_mod_cast hden
  have hpos : 0 < den * Nat.pow 2 scale.toNat := Nat.mul_pos hden (Nat.two_pow_pos _)
  rw [Nat.div_lt_iff_lt_mul hpos, ← Nat.cast_lt (α := ℚ)]
  have hlt : (num / den : ℚ) < 2 ^ (53 : Int) * (2 ^ scale.toNat / 2 ^ (-scale).toNat) := by
    rw [two_pow_toNat_div, ← zpow_add₀ (by norm_num)]
    exact hhigh.trans_le (zpow_le_zpow_right₀ (by norm_num) (by omega))
  rw [← mul_div_assoc, div_lt_div_iff₀ hden' (by positivity)] at hlt
  push_cast [Nat.pow_eq]
  rw [← mul_assoc, mul_right_comm]
  exact_mod_cast hlt

/-- A ratio below a power of two is rounded at most to this power. -/
lemma ratioMagnitude_le {k : Nat} (hnum : 0 < num) (hden : 0 < den) (h : num < den * 2 ^ k) :
    ratioMagnitude num den ≤ (k + 1023) * 2 ^ 52 := by
  obtain ⟨hlow, -⟩ := floorLog2_spec hnum hden
  have hden' : (0 : ℚ) < den := by exact_mod_cast hden
  have hlog : floorLog2 num den < k := by
    rw [← zpow_lt_zpow_iff_right₀ (by norm_num : (1 : ℚ) < 2)]
    refine hlow.trans_lt ?_
    rw [div_lt_iff₀ hden', zpow_natCast, mul_comm]
    exact_mod_cast h
  unfold ratioMagnitude
  generalize hscale : max (floorLog2 num den - 52) (-1074) = scale
  have hquotient := ratioQuotient_lt hnum hden hscale
  have hmantissa := roundHalfEven_le (num * Nat.pow 2 (-scale).toNat) (den * Nat.pow 2 scale.toNat)
  simp only [Nat.pow_eq] at hquotient hmantissa ⊢
  omega

/-- A ratio below a power of two has an exponent no greater than that of this power. -/
lemma exponentField_ofRatio_le (negative : Bool) {k : Nat} (hden : 0 < den)
    (h : num < den * 2 ^ k) (hk : k ≤ 1023) :
    (ofRatio negative num den).exponentField ≤ k + 1023 := by
  rcases Nat.eq_zero_or_pos num with rfl | hnum
  · rw [ofRatio_zero]
    cases negative <;> exact Nat.zero_le _
  · have hle := ratioMagnitude_le hnum hden h
    have hbig : ¬2047 * Nat.pow 2 52 ≤ ratioMagnitude num den := by
      simp only [Nat.pow_eq]
      omega
    rw [ofRatio_eq negative hnum.ne', if_neg hbig, exponentField, magnitude_ofNat (by omega)]
    simp only [Nat.pow_eq]
    omega

lemma isFinite_or_isInfinite_ofRatio (negative : Bool) (num den : Nat) :
    (ofRatio negative num den).isFinite ∨ (ofRatio negative num den).isInfinite := by
  rcases Nat.eq_zero_or_pos num with rfl | hnum
  · left
    rw [ofRatio_zero]
    cases negative <;> rfl
  · rw [ofRatio_eq negative hnum.ne']
    by_cases hbig : 2047 * Nat.pow 2 52 ≤ ratioMagnitude num den
    · right
      rw [if_pos hbig]
      cases negative <;> rfl
    · left
      rw [if_neg hbig]
      simp only [Nat.pow_eq] at hbig
      have hmagnitude : ratioMagnitude num den < 2 ^ 63 := by omega
      simp only [isFinite, exponentField, magnitude_ofNat hmagnitude, Nat.pow_eq, bne_iff_ne]
      omega

lemma isNaN_of_isFinite (h : x.isFinite) : x.isNaN = false := by
  simp_all [isFinite, isNaN]

lemma isInfinite_of_isFinite (h : x.isFinite) : x.isInfinite = false := by
  simp_all [isFinite, isInfinite]

lemma isFinite_of_exponentField_le (h : x.exponentField ≤ 2046) : x.isFinite := by
  rw [isFinite, bne_iff_ne]
  omega

lemma significand_lt (x : Binary64) : x.significand < 2 ^ 53 := by
  have := Nat.mod_lt x.magnitude (Nat.two_pow_pos 52)
  unfold significand fraction
  simp only [Nat.pow_eq]
  split_ifs <;> omega

lemma le_significand (h : 1 ≤ x.exponentField) : 2 ^ 52 ≤ x.significand := by
  unfold significand
  simp only [Nat.pow_eq]
  split_ifs <;> omega

lemma div_eq (hx : x.isFinite) (hy : y.isFinite) (hzero : y.isZero = false) :
    x.div y = ofRatio (x.negative != y.negative)
      (x.significand * Nat.pow 2 (x.exponent - y.exponent).toNat)
      (y.significand * Nat.pow 2 (-(x.exponent - y.exponent)).toNat) := by
  rw [div, isNaN_of_isFinite hx, isNaN_of_isFinite hy, isInfinite_of_isFinite hx,
    isInfinite_of_isFinite hy, hzero]
  simp only [Bool.or_self, Bool.false_eq_true, if_false]

/-- A quotient is as small as the divisor is great. -/
lemma exponentField_div_le (hx : x.exponentField ≤ 1100) (hy : y.isFinite)
    (hone : 1023 ≤ y.exponentField) :
    (x.div y).exponentField ≤ (x.exponentField + 2 - y.exponentField) + 1023 := by
  have hfinite : x.isFinite := isFinite_of_exponentField_le (by omega)
  have hzero : y.isZero = false := by
    rw [isZero, beq_eq_false_iff_ne]
    intro hmagnitude
    rw [exponentField, hmagnitude] at hone
    norm_num at hone
  have hsx := x.significand_lt
  have hsy := le_significand (show 1 ≤ y.exponentField by omega)
  rw [div_eq hfinite hy hzero]
  apply exponentField_ofRatio_le
  · exact Nat.mul_pos (by omega) (Nat.two_pow_pos _)
  · simp only [Nat.pow_eq]
    calc x.significand * 2 ^ (x.exponent - y.exponent).toNat
        < 2 * y.significand * 2 ^ (x.exponent - y.exponent).toNat := by
          gcongr
          omega
      _ = y.significand * 2 ^ ((x.exponent - y.exponent).toNat + 1) := by ring
      _ ≤ y.significand * 2 ^ ((-(x.exponent - y.exponent)).toNat +
            (x.exponentField + 2 - y.exponentField)) := by
          apply Nat.mul_le_mul_left
          apply Nat.pow_le_pow_right (by norm_num)
          unfold exponent
          omega
      _ = y.significand * 2 ^ (-(x.exponent - y.exponent)).toNat *
            2 ^ (x.exponentField + 2 - y.exponentField) := by ring
  · omega

lemma mul_eq (hx : x.isFinite) (hy : y.isFinite) :
    x.mul y = ofScaled (x.negative != y.negative) (x.significand * y.significand)
      (x.exponent + y.exponent) := by
  rw [mul, isNaN_of_isFinite hx, isNaN_of_isFinite hy, isInfinite_of_isFinite hx,
    isInfinite_of_isFinite hy]
  simp only [Bool.or_self, Bool.false_eq_true, if_false]

/-- A product of doubles that are not too great is finite. -/
lemma isFinite_mul (hx : x.isFinite) (hy : y.isFinite)
    (h : x.exponentField + y.exponentField ≤ 2200) : (x.mul y).isFinite := by
  have hs : x.significand * y.significand < 2 ^ 53 * 2 ^ 53 :=
    Nat.mul_lt_mul'' x.significand_lt y.significand_lt
  rw [mul_eq hx hy, ofScaled]
  apply isFinite_of_exponentField_le
  refine (exponentField_ofRatio_le (k := 200) _ (Nat.two_pow_pos _) ?_ (by norm_num)).trans
    (by norm_num)
  simp only [Nat.pow_eq]
  calc x.significand * y.significand * 2 ^ (x.exponent + y.exponent).toNat
      < 2 ^ 53 * 2 ^ 53 * 2 ^ (x.exponent + y.exponent).toNat := by gcongr
    _ = 2 ^ (106 + (x.exponent + y.exponent).toNat) := by ring
    _ ≤ 2 ^ ((-(x.exponent + y.exponent)).toNat + 200) := by
      apply Nat.pow_le_pow_right (by norm_num)
      unfold exponent
      omega
    _ = 2 ^ (-(x.exponent + y.exponent)).toNat * 2 ^ 200 := Nat.pow_add ..

@[simp]
lemma exponentField_neg (x : Binary64) : x.neg.exponentField = x.exponentField := by
  have hmagnitude : x.neg.magnitude = x.magnitude := by
    simp only [magnitude, neg, UInt64.toNat_xor, Nat.pow_eq, Nat.xor_mod_two_pow]
    simp
  rw [exponentField, hmagnitude]
  rfl

lemma powerOfTen_spec {k : Nat} (h : k ≤ 308) :
    (powerOfTen k).isFinite ∧ 1023 ≤ (powerOfTen k).exponentField := by
  have hall : ∀ k : Fin 309, (powerOfTen k).isFinite ∧ 1023 ≤ (powerOfTen k).exponentField := by
    decide +kernel
  exact hall ⟨k, by omega⟩

/-- A double of at most machine-word size stays finite when it is scaled. -/
lemma isFinite_of_scaleByTen {steps : Nat} {e : Int} (hx : x.exponentField ≤ 1100)
    (h : scaleByTen steps x e = some y) : y.isFinite := by
  have hfinite : x.isFinite := isFinite_of_exponentField_le (by omega)
  induction steps generalizing x e with
  | zero =>
    rw [scaleByTen, Option.some.injEq] at h
    exact h ▸ hfinite
  | succ steps ih =>
    rw [scaleByTen] at h
    dsimp only at h
    split_ifs at h with hsmall hup hinfinite hzero
    · obtain ⟨hpower, -⟩ := powerOfTen_spec (k := e.toNat) (by omega)
      rw [Option.some.injEq] at h
      subst h
      rw [mul_eq hfinite hpower] at hinfinite ⊢
      exact (isFinite_or_isInfinite_ofRatio ..).resolve_right hinfinite
    · obtain ⟨hpower, hone⟩ := powerOfTen_spec hsmall
      rw [Option.some.injEq] at h
      subst h
      apply isFinite_of_exponentField_le
      have := exponentField_div_le hx hpower hone
      omega
    · exact Option.some.inj h ▸ hfinite
    · have hpower : (powerOfTen 308).isFinite ∧ (powerOfTen 308).exponentField = 2046 := by
        decide +kernel
      have hdiv := exponentField_div_le hx hpower.1 (by omega)
      exact ih (by omega) h (isFinite_of_exponentField_le (by omega))

lemma leadingWord_le {acc : Nat} (digits : List Char) (h : acc ≤ wordMax) :
    (leadingWord acc digits).1 ≤ wordMax := by
  induction digits generalizing acc with
  | nil => exact h
  | cons c digits ih =>
    rw [leadingWord]
    split_ifs with hnext
    · exact h
    · exact ih (not_lt.mp hnext)

lemma le_ofDigitChars (acc : Nat) (digits : List Char) : acc ≤ Nat.ofDigitChars 10 digits acc := by
  induction digits generalizing acc with
  | nil => exact le_rfl
  | cons c digits ih =>
    rw [Nat.ofDigitChars_cons]
    refine le_trans ?_ (ih _)
    omega

lemma leadingWord_eq {acc : Nat} {digits : List Char}
    (h : Nat.ofDigitChars 10 digits acc ≤ wordMax) :
    leadingWord acc digits = (Nat.ofDigitChars 10 digits acc, []) := by
  induction digits generalizing acc with
  | nil => rfl
  | cons c digits ih =>
    rw [Nat.ofDigitChars_cons] at h ⊢
    have hnext : ¬wordMax < 10 * acc + (c.toNat - 48) :=
      not_lt.mpr ((le_ofDigitChars _ digits).trans h)
    rw [leadingWord]
    simp only [if_neg hnext]
    exact ih h

lemma exponentField_ofNat_le {n : Nat} (h : n ≤ wordMax) : (ofNat n).exponentField ≤ 1087 := by
  apply exponentField_ofRatio_le false one_pos (k := 64) _ (by norm_num)
  unfold wordMax at h
  simp only [Nat.pow_eq] at h
  omega

lemma isFinite_of_ofParts? {negative : Bool} {whole frac : List Char} {e : Int}
    (h : ofParts? negative whole frac e = some x) : x.isFinite := by
  have hsign (y : Binary64) (hy : y.isFinite) : (if negative then y.neg else y).isFinite := by
    cases negative
    · exact hy
    · simpa [isFinite] using hy
  obtain ⟨y, hsized, rfl⟩ := Option.map_eq_some_iff.mp h
  apply hsign
  split_ifs at hsized
  · exact Option.some.inj hsized ▸ rfl
  · refine isFinite_of_scaleByTen ?_ hsized
    have := exponentField_ofNat_le
      (leadingWord_le frac (leadingWord_le whole (Nat.zero_le wordMax)))
    omega

lemma isSome_ofParts? {digits : List Char} (h : Nat.ofDigitChars 10 digits 0 ≤ wordMax) :
    (ofParts? false digits [] 0).isSome := by
  have hone : (powerOfTen 0).isFinite ∧ (powerOfTen 0).exponentField = 1023 := by
    decide +kernel
  have hfield := exponentField_ofNat_le h
  have hfinite := isFinite_mul (isFinite_of_exponentField_le (hfield.trans (by norm_num))) hone.1
    (by omega)
  have hscaled : (scaleByTen 8 (ofNat (Nat.ofDigitChars 10 digits 0)) 0).isSome := by
    simp [scaleByTen, isInfinite_of_isFinite hfinite]
  rw [ofParts?, leadingWord_eq h]
  change (Option.map _ (if Nat.ofDigitChars 10 digits 0 = 0 then some (zero false)
    else scaleByTen 8 (ofNat (Nat.ofDigitChars 10 digits 0)) 0)).isSome
  rw [Option.isSome_map]
  split_ifs
  · rfl
  · exact hscaled

end Dataflow.Binary64
