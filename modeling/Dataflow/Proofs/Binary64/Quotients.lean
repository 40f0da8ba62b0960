import Dataflow.Proofs.Binary64

/-!
# Quotients of natural numbers

A natural number with no more digits than a significand is a double, so the quotient of two such
numbers is the rounded ratio. A ratio below one differs from one by more than rounding can add, so
the quotient is below one exactly if the ratio is.
-/

namespace Dataflow.Binary64

variable {num den k m n : Nat}

lemma roundHalfEven_le_of_le {q : Nat} (hden : 0 < den) (h : num ≤ den * q) :
    roundHalfEven num den ≤ q := by
  rcases (Nat.div_le_of_le_mul h).lt_or_eq with hlt | heq
  · exact (roundHalfEven_le num den).trans hlt
  · have hrest : num % den = 0 := by
      have := Nat.div_add_mod num den
      rw [heq] at this
      omega
    rw [roundHalfEven, hrest, mul_zero, if_pos hden, heq]

lemma roundHalfEven_mul (hden : 0 < den) (q : Nat) : roundHalfEven (den * q) den = q := by
  rw [roundHalfEven, Nat.mul_mod_right, mul_zero, if_pos hden, Nat.mul_div_cancel_left q hden]

/-- A ratio below one by a unit of the last digit or more is rounded to less than one. -/
lemma ratioMagnitude_lt (hnum : 0 < num) (hden : 0 < den)
    (h : num * 2 ^ 53 ≤ den * (2 ^ 53 - 1)) : ratioMagnitude num den < 1023 * 2 ^ 52 := by
  obtain ⟨hlow, -⟩ := floorLog2_spec hnum hden
  have hlt : num < den := by omega
  have hlog : floorLog2 num den < 0 := by
    rw [← zpow_lt_zpow_iff_right₀ (by norm_num : (1 : ℚ) < 2), zpow_zero]
    refine hlow.trans_lt ?_
    rw [div_lt_one (by exact_mod_cast hden)]
    exact_mod_cast hlt
  unfold ratioMagnitude
  generalize hscale : max (floorLog2 num den - 52) (-1074) = scale
  have hquotient := ratioQuotient_lt hnum hden hscale
  have hmantissa := roundHalfEven_le (num * Nat.pow 2 (-scale).toNat) (den * Nat.pow 2 scale.toNat)
  rcases (show scale ≤ -53 by omega).lt_or_eq with hsmall | rfl
  · simp only [Nat.pow_eq] at hquotient hmantissa ⊢
    omega
  · have hle : roundHalfEven (num * 2 ^ 53) (den * 2 ^ 0) ≤ 2 ^ 53 - 1 := by
      rw [pow_zero, mul_one]
      exact roundHalfEven_le_of_le hden h
    have hmantissa : roundHalfEven (num * Nat.pow 2 (- -53 : Int).toNat)
        (den * Nat.pow 2 (-53 : Int).toNat) ≤ 2 ^ 53 - 1 := hle
    simp only [Nat.pow_eq] at hmantissa ⊢
    omega

lemma floorLog2_self (num : Nat) : floorLog2 num num = 0 := by
  rw [floorLog2, sub_self]
  exact if_pos le_rfl

lemma ratioMagnitude_self (hnum : 0 < num) : ratioMagnitude num num = 1023 * 2 ^ 52 := by
  rw [ratioMagnitude, floorLog2_self]
  change 1022 * 2 ^ 52 + roundHalfEven (num * 2 ^ 52) (num * 2 ^ 0) = 1023 * 2 ^ 52
  rw [pow_zero, mul_one, roundHalfEven_mul hnum]
  norm_num

/-- A positive ratio that is not beyond the greatest double keeps its sign and magnitude. -/
lemma ofRatio_parts (hnum : num ≠ 0) (h : ratioMagnitude num den < 2047 * 2 ^ 52) :
    (ofRatio false num den).negative = false ∧
      (ofRatio false num den).magnitude = ratioMagnitude num den := by
  have hsmall : ¬2047 * Nat.pow 2 52 ≤ ratioMagnitude num den := not_le.mpr h
  rw [ofRatio_eq false hnum, if_neg hsmall]
  refine ⟨?_, magnitude_ofNat (by omega)⟩
  have hword : ratioMagnitude num den < 2 ^ 64 := by omega
  rw [negative, decide_eq_false_iff_not, not_le]
  simp only [Bool.false_eq_true, if_false, Nat.add_zero, Nat.pow_eq]
  rw [UInt64.toNat_ofNat_of_lt' hword]
  omega

/-- A ratio is below one as a double exactly if its magnitude is. -/
lemma lt_one_ofRatio (hnum : num ≠ 0) (h : ratioMagnitude num den < 2047 * 2 ^ 52) :
    (ofRatio false num den).lt (ofNat 1) =
      decide (ratioMagnitude num den < 1023 * 2 ^ 52) := by
  have hone : (ofNat 1).isNaN = false ∧ (ofNat 1).place = 1023 * 2 ^ 52 := by
    decide +kernel
  obtain ⟨hnegative, hmagnitude⟩ := ofRatio_parts hnum h
  have hnan : (ofRatio false num den).isNaN = false := by
    rcases isFinite_or_isInfinite_ofRatio false num den with hfinite | hinfinite
    · exact isNaN_of_isFinite hfinite
    · simp_all [isInfinite, isNaN]
  have hplace : (ofRatio false num den).place = ratioMagnitude num den := by
    rw [place, hnegative, if_neg Bool.false_ne_true, hmagnitude]
  rw [lt, hnan, hone.1, hplace, hone.2, Bool.not_false, Bool.and_self, Bool.true_and,
    decide_eq_decide]
  omega

lemma log2_le (hpos : 0 < n) (h : n < 2 ^ 53) : n.log2 ≤ 52 :=
  Nat.le_of_lt_succ ((Nat.log2_lt hpos.ne').mpr h)

lemma ratioMagnitude_one (hpos : 0 < n) (h : n < 2 ^ 53) :
    ratioMagnitude n 1 = (n.log2 + 1022) * 2 ^ 52 + n * 2 ^ (52 - n.log2) := by
  have hlog := log2_le hpos h
  have hfloor : floorLog2 n 1 = n.log2 := by
    have hone : Nat.log2 1 = 0 := rfl
    rw [floorLog2, hone, Nat.cast_zero, sub_zero]
    simp [Nat.log2_self_le hpos.ne']
  rw [ratioMagnitude, hfloor]
  generalize hscale : max ((n.log2 : Int) - 52) (-1074) = scale
  have hup : (-scale).toNat = 52 - n.log2 := by omega
  have hdown : scale.toNat = 0 := by omega
  have hplace : (scale + 1074).toNat = n.log2 + 1022 := by omega
  rw [hup, hdown, hplace]
  simp only [Nat.pow_eq, pow_zero, mul_one]
  rw [← one_mul (n * 2 ^ (52 - n.log2)), roundHalfEven_mul one_pos, one_mul]

/-- A natural number below `2 ^ 53` is a double, with as many zeros behind it as there is room. -/
lemma ofNat_parts (hpos : 0 < n) (h : n < 2 ^ 53) :
    (ofNat n).isFinite ∧ (ofNat n).isZero = false ∧ (ofNat n).negative = false ∧
      (ofNat n).significand = n * 2 ^ (52 - n.log2) ∧
      (ofNat n).exponent = (n.log2 : Int) - 52 := by
  have hlog := log2_le hpos h
  have hlow : 2 ^ 52 ≤ n * 2 ^ (52 - n.log2) := by
    calc 2 ^ 52 = 2 ^ n.log2 * 2 ^ (52 - n.log2) := by rw [← pow_add, Nat.add_sub_cancel' hlog]
      _ ≤ n * 2 ^ (52 - n.log2) := by
        gcongr
        exact Nat.log2_self_le hpos.ne'
  have hhigh : n * 2 ^ (52 - n.log2) < 2 ^ 53 := by
    calc n * 2 ^ (52 - n.log2) < 2 ^ (n.log2 + 1) * 2 ^ (52 - n.log2) := by
          gcongr
          exact Nat.lt_log2_self
      _ = 2 ^ 53 := by
        rw [← pow_add]
        congr 1
        omega
  have hmagnitude := ratioMagnitude_one hpos h
  have hbound : ratioMagnitude n 1 < 2047 * 2 ^ 52 := by omega
  obtain ⟨hnegative, hsame⟩ := ofRatio_parts hpos.ne' hbound
  rw [hmagnitude] at hsame
  change (ofNat n).magnitude = _ at hsame
  have hfield : (ofNat n).exponentField = n.log2 + 1023 := by
    rw [exponentField, hsame]
    simp only [Nat.pow_eq]
    omega
  have hfraction : (ofNat n).fraction = n * 2 ^ (52 - n.log2) - 2 ^ 52 := by
    rw [fraction, hsame]
    simp only [Nat.pow_eq]
    omega
  refine ⟨isFinite_of_exponentField_le (by omega), ?_, hnegative, ?_, ?_⟩
  · rw [isZero, hsame, beq_eq_false_iff_ne]
    omega
  · rw [significand, hfield, if_neg (Nat.succ_ne_zero _), hfraction, Nat.pow_eq,
      Nat.sub_add_cancel hlow]
  · rw [exponent, hfield]
    omega

/-- The quotient of natural numbers below `2 ^ 53` is below one exactly if the first one is below
the second one. -/
theorem lt_one_div_ofNat (hkm : k ≤ m) (hpos : 0 < m) (hm : m < 2 ^ 53) :
    ((ofNat k).div (ofNat m)).lt (ofNat 1) = decide (k < m) := by
  obtain ⟨hmfinite, hmzero, hmnegative, hmsignificand, hmexponent⟩ := ofNat_parts hpos hm
  rcases Nat.eq_zero_or_pos k with rfl | hk
  · rw [div_eq rfl hmfinite hmzero, hmnegative, decide_eq_true hpos]
    change (ofRatio false (0 * _) _).lt _ = true
    rw [zero_mul, ofRatio_zero]
    decide +kernel
  · obtain ⟨hkfinite, -, hknegative, hksignificand, hkexponent⟩ := ofNat_parts hk (hkm.trans_lt hm)
    have hlog : k.log2 ≤ m.log2 := (Nat.le_log2 hpos.ne').mpr ((Nat.log2_self_le hk.ne').trans hkm)
    have hmlog := log2_le hpos hm
    -- Both numbers are scaled by the same power of two.
    have hup : ((k.log2 : Int) - 52 - (m.log2 - 52)).toNat = 0 := by omega
    have hdown : (-((k.log2 : Int) - 52 - (m.log2 - 52))).toNat = m.log2 - k.log2 := by omega
    have hscale : m * 2 ^ (52 - m.log2) * 2 ^ (m.log2 - k.log2) = m * 2 ^ (52 - k.log2) := by
      rw [mul_assoc, ← pow_add]
      congr 2
      omega
    have hnum : 0 < k * 2 ^ (52 - k.log2) := Nat.mul_pos hk (Nat.two_pow_pos _)
    have hden : 0 < m * 2 ^ (52 - k.log2) := Nat.mul_pos hpos (Nat.two_pow_pos _)
    rw [div_eq hkfinite hmfinite hmzero, hknegative, hmnegative, hksignificand, hmsignificand,
      hkexponent, hmexponent, hup, hdown]
    simp only [Nat.pow_eq, pow_zero, mul_one, hscale]
    change (ofRatio false _ _).lt _ = _
    rcases hkm.lt_or_eq with hlt | rfl
    · have hunit : k * 2 ^ 53 ≤ m * (2 ^ 53 - 1) := by omega
      have hmagnitude := ratioMagnitude_lt hnum hden (by
        rw [mul_right_comm, mul_right_comm m]
        exact Nat.mul_le_mul_right _ hunit)
      rw [lt_one_ofRatio hnum.ne' (by omega), decide_eq_true hlt, decide_eq_true hmagnitude]
    · rw [lt_one_ofRatio hnum.ne' (by rw [ratioMagnitude_self hnum]; norm_num),
        ratioMagnitude_self hnum, decide_eq_false (lt_irrefl _), decide_eq_false (lt_irrefl _)]

end Dataflow.Binary64
