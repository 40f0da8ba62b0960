import Mathlib.Tactic
import Dataflow.Text.Blank
import Dataflow.Text.Integer

/-!
# Integers that are written and read

The decimal text of an integer is read as the same integer by every reader whose range it lies in,
and no blank is taken off it before. Readers of different ranges agree where both accept.
-/

namespace Dataflow

lemma naturalOfDigits?_toDigits (n : Nat) : naturalOfDigits? (Nat.toDigits 10 n) = some n := by
  have hdigits : (Nat.toDigits 10 n).all Char.isDigit = true :=
    List.all_eq_true.mpr fun c hc => Nat.isDigit_of_mem_toDigits (by decide) (by decide) hc
  have hvalue : (Nat.toDigits 10 n).foldl (fun m c => 10 * m + (c.toNat - 48)) 0 = n :=
    Nat.ofDigitChars_toDigits (by decide) (by decide)
  simp [naturalOfDigits?, hdigits, hvalue, Nat.toDigits_ne_nil]

/-- The text of an integer that is not negative does not begin with a sign. -/
lemma exists_toDigits_eq_cons (n : Nat) :
    ∃ c cs, Nat.toDigits 10 n = c :: cs ∧ c ≠ '-' ∧ c ≠ '+' := by
  obtain ⟨c, cs, hcs⟩ := List.exists_cons_of_ne_nil (Nat.toDigits_ne_nil (n := n) (b := 10))
  have hdigit : c.isDigit := Nat.isDigit_of_mem_toDigits (b := 10) (n := n) (by decide) (by decide)
    (hcs ▸ List.mem_cons_self)
  refine ⟨c, cs, hcs, ?_, ?_⟩ <;>
  · rintro rfl
    exact absurd hdigit (by decide)

lemma toList_toString (n : Int) : (toString n).toList =
    if 0 ≤ n then Nat.toDigits 10 n.toNat else '-' :: Nat.toDigits 10 (-n).toNat := by
  rw [Int.toString_eq_repr, Int.repr_eq_if]
  split_ifs
  · rw [Nat.repr_eq_ofList_toDigits, String.toList_ofList]
  · rw [Nat.repr_eq_ofList_toDigits, String.toList_append, String.toList_ofList,
      String.toList_ofList, List.singleton_append]

lemma boundedInteger?_eq_some_iff {low high n m : Int} :
    boundedInteger? low high n = some m ↔ n = m ∧ low ≤ n ∧ n ≤ high := by
  rw [boundedInteger?]
  split_ifs with h
  · simp [h]
  · simp [h]

/-- An integer is read from its text if it lies in the range. -/
lemma integerOfText?_toString {low high n : Int} (hlow : low ≤ n) (hhigh : n ≤ high) :
    integerOfText? low high (toString n) = some n := by
  have hbounds : boundedInteger? low high n = some n :=
    boundedInteger?_eq_some_iff.mpr ⟨rfl, hlow, hhigh⟩
  rw [integerOfText?, toList_toString]
  split_ifs with hn
  · obtain ⟨c, cs, hcs, hminus, hplus⟩ := exists_toDigits_eq_cons n.toNat
    have hread := naturalOfDigits?_toDigits n.toNat
    rw [hcs] at hread ⊢
    have hcast : ((n.toNat : Nat) : Int) = n := Int.toNat_of_nonneg hn
    split
    · next heq => exact absurd (List.cons.inj heq).1 hminus
    · next heq => exact absurd (List.cons.inj heq).1 hplus
    · rw [hread]
      change boundedInteger? low high (n.toNat : Int) = some n
      rw [hcast, hbounds]
  · have hcast : -(((-n).toNat : Nat) : Int) = n := by omega
    simp only [naturalOfDigits?_toDigits]
    change boundedInteger? low high (-((-n).toNat : Int)) = some n
    rw [hcast, hbounds]

/-- Reading with a wide range and keeping what lies in a narrow one is reading with the narrow
range. -/
lemma bind_integerOfText? {low low' high high' : Int} (hlow : low' ≤ low) (hhigh : high ≤ high')
    (s : String) : (integerOfText? low' high' s).bind (boundedInteger? low high) =
      integerOfText? low high s := by
  have hnarrow (n : Int) : (boundedInteger? low' high' n).bind (boundedInteger? low high) =
      boundedInteger? low high n := by
    by_cases h : low' ≤ n ∧ n ≤ high'
    · rw [boundedInteger?, if_pos h, Option.bind_some]
    · have hout : ¬(low ≤ n ∧ n ≤ high) := by omega
      rw [boundedInteger?, if_neg h, boundedInteger?, if_neg hout, Option.bind_none]
  rw [integerOfText?, integerOfText?, Option.bind_assoc]
  simp only [hnarrow]

lemma integerOfText?_bounds {low high n : Int} {s : String}
    (h : integerOfText? low high s = some n) : low ≤ n ∧ n ≤ high := by
  rw [integerOfText?] at h
  obtain ⟨m, -, hm⟩ := Option.bind_eq_some_iff.mp h
  obtain ⟨rfl, hbounds⟩ := boundedInteger?_eq_some_iff.mp hm
  exact hbounds

lemma isBlank_eq_false {c : Char} (hlow : 0x21 ≤ c.toNat) (hhigh : c.toNat < 0x85) :
    isBlank c = false := by
  have hbelow : CodePoints.flips (blanks.changes.drop 4) c.toNat = false :=
    CodePoints.flips_of_lt _ hhigh
  have habove (place : Nat) (hplace : place ≤ 0x21) (places : List Nat) :
      CodePoints.flips (place :: places) c.toNat = !CodePoints.flips places c.toNat :=
    CodePoints.flips_of_le _ (hplace.trans hlow)
  rw [isBlank, CodePoints.contains]
  change CodePoints.flips (0x9 :: 0xe :: 0x20 :: 0x21 :: blanks.changes.drop 4) c.toNat = false
  rw [habove _ (by decide), habove _ (by decide), habove _ (by decide), habove _ (by decide),
    hbelow]
  rfl

lemma trimBlanks_eq_self {s : String} (h : ∀ c ∈ s.toList, isBlank c = false) :
    trimBlanks s = s := by
  have hdrop (cs : List Char) (hcs : ∀ c ∈ cs, isBlank c = false) : cs.dropWhile isBlank = cs := by
    match cs with
    | [] => rfl
    | c :: cs => exact List.dropWhile_cons_of_neg (by simp [hcs c List.mem_cons_self])
  rw [trimBlanks, hdrop _ h, hdrop _ fun c hc => h c (List.mem_reverse.mp hc), List.reverse_reverse,
    String.ofList_toList]

lemma trimBlanks_toString (n : Int) : trimBlanks (toString n) = toString n := by
  have hdigit (m : Nat) (c : Char) (hc : c ∈ Nat.toDigits 10 m) : isBlank c = false := by
    have hc : c.isDigit := Nat.isDigit_of_mem_toDigits (by decide) (by decide) hc
    simp only [Char.isDigit, Bool.and_eq_true, decide_eq_true_eq, ge_iff_le, UInt32.le_iff_toNat_le]
      at hc
    exact isBlank_eq_false (Nat.le_trans (by decide) hc.1) (Nat.lt_of_le_of_lt hc.2 (by decide))
  refine trimBlanks_eq_self fun c hc => ?_
  rw [toList_toString] at hc
  split_ifs at hc
  · exact hdigit _ c hc
  · rcases List.mem_cons.mp hc with rfl | hc
    · exact isBlank_eq_false (by decide) (by decide)
    · exact hdigit _ c hc

end Dataflow
