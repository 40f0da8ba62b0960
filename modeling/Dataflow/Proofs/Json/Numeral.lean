import Mathlib.Data.List.TakeWhile
import Dataflow.Json.Reader
import Dataflow.Proofs.Binary64

/-!
# Numerals that are written and read

The reader takes a numeral apart just as the writer put it together, if nothing behind it could
belong to it. Numbers of a machine word read back as themselves. A double reads back as itself where
its shortest decimal does, which also rules out a decimal without digits.
-/

namespace Dataflow

/-- The numeral of a double is read as the same double. -/
def Binary64.ReadsBack (x : Binary64) : Prop :=
  (Numeral.ofBinary64 x).toBinary64? = some x

namespace Numeral

variable {n : Numeral} {rest : List Char}

/-- A numeral as texts write it: there are digits before the point and in an exponent, and no digit
is before the point needlessly. -/
structure Proper (n : Numeral) : Prop where
  whole_ne_nil : n.whole ≠ []
  whole_eq_zero : n.whole.head? = some '0' → n.whole = ['0']
  whole_digits : ∀ c ∈ n.whole, c.isDigit
  fraction_digits : ∀ c ∈ n.fraction, c.isDigit
  exponent_ne_nil : ∀ part ∈ n.exponent, part.2 ≠ []
  exponent_digits : ∀ part ∈ n.exponent, ∀ c ∈ part.2, c.isDigit

/-- A text that does not begin with a digit. -/
def NoDigit (cs : List Char) : Prop :=
  ∀ c ∈ cs.head?, c.isDigit = false

/-- A text that does not begin with a digit or a point. -/
def NoFraction (cs : List Char) : Prop :=
  NoDigit cs ∧ ∀ c ∈ cs.head?, c ≠ '.'

/-- A text that cannot go on with a numeral in front of it. -/
def Stops (cs : List Char) : Prop :=
  NoFraction cs ∧ ∀ c ∈ cs.head?, c ≠ 'e' ∧ c ≠ 'E'

/-- The characters of the digits after the point. -/
def fractionChars (fraction : List Char) : List Char :=
  if fraction.isEmpty then [] else '.' :: fraction

lemma Stops.exponentChars (h : Stops rest) (exponent : Option (Bool × List Char)) :
    NoFraction (exponentChars exponent ++ rest) := by
  cases exponent with
  | none => exact h.1
  | some part => simp [NoFraction, NoDigit, Numeral.exponentChars]

lemma NoFraction.fractionChars (h : NoFraction rest) (fraction : List Char) :
    NoDigit (fractionChars fraction ++ rest) := by
  cases fraction with
  | nil => exact h.1
  | cons c fraction => simp [NoDigit, Numeral.fractionChars]

lemma chars_append (n : Numeral) (rest : List Char) :
    n.chars ++ rest = (if n.negative then ['-'] else []) ++ (n.whole ++
      (fractionChars n.fraction ++ (exponentChars n.exponent ++ rest))) := by
  simp only [chars, fractionChars, List.append_assoc]

lemma readDigits?_append {digits : List Char} (hne : digits ≠ [])
    (hdigits : ∀ c ∈ digits, c.isDigit) (hrest : NoDigit rest) :
    Json.readDigits? (digits ++ rest) = some (digits, rest) := by
  have hstop : rest.takeWhile Char.isDigit = [] ∧ rest.dropWhile Char.isDigit = rest := by
    cases rest with
    | nil => exact ⟨rfl, rfl⟩
    | cons c rest => simp [hrest c rfl]
  rw [Json.readDigits?, List.takeWhile_append_of_pos hdigits, List.dropWhile_append_of_pos hdigits,
    hstop.1, hstop.2, List.append_nil]
  cases digits with
  | nil => exact absurd rfl hne
  | cons c digits => rfl

lemma readExponent?_append {exponent : Option (Bool × List Char)}
    (hne : ∀ part ∈ exponent, part.2 ≠ []) (hdigits : ∀ part ∈ exponent, ∀ c ∈ part.2, c.isDigit)
    (hrest : Stops rest) :
    Json.readExponent? (exponentChars exponent ++ rest) = some (exponent, rest) := by
  match exponent with
  | none =>
    match rest with
    | [] => rfl
    | c :: rest =>
      have hmark : ¬(c = 'e' ∨ c = 'E') := not_or.mpr (hrest.2 c rfl)
      simp [exponentChars, Json.readExponent?, hmark]
  | some (negative, digits) =>
    have hread := readDigits?_append (hne _ rfl) (hdigits _ rfl) hrest.1.1
    cases negative <;> simp [exponentChars, Json.readExponent?, Binary64.splitSign, hread]

lemma readFraction?_append {fraction cs : List Char} (hdigits : ∀ c ∈ fraction, c.isDigit)
    (hcs : NoFraction cs) :
    Json.readFraction? (fractionChars fraction ++ cs) = some (fraction, cs) := by
  match fraction with
  | [] =>
    match cs with
    | [] => rfl
    | c :: cs =>
      have hpoint : c ≠ '.' := hcs.2 c rfl
      change Json.readFraction? (c :: cs) = _
      unfold Json.readFraction?
      split
      · simp_all
      · rfl
  | c :: fraction => exact readDigits?_append (by simp) hdigits hcs.1

lemma readWhole?_append {whole cs : List Char} (hne : whole ≠ [])
    (hzero : whole.head? = some '0' → whole = ['0']) (hdigits : ∀ c ∈ whole, c.isDigit)
    (hcs : NoDigit cs) : Json.readWhole? (whole ++ cs) = some (whole, cs) := by
  unfold Json.readWhole?
  split
  · rename_i rest heq
    have hhead : whole.head? = some '0' := by
      rw [← List.head?_append_of_ne_nil whole hne, heq]
      rfl
    rw [hzero hhead] at heq ⊢
    exact congrArg (fun rest => some (['0'], rest)) (List.cons.inj heq).2.symm
  · exact readDigits?_append hne hdigits hcs

/-- What is written is read back. -/
lemma Proper.readNumeral?_append (h : n.Proper) (hrest : Stops rest) :
    Json.readNumeral? (n.chars ++ rest) = some (n, rest) := by
  have hexponent := readExponent?_append h.exponent_ne_nil h.exponent_digits hrest
  have hfraction := readFraction?_append h.fraction_digits (hrest.exponentChars n.exponent)
  have hwhole := readWhole?_append h.whole_ne_nil h.whole_eq_zero h.whole_digits
    ((hrest.exponentChars n.exponent).fractionChars n.fraction)
  have hn : (⟨n.negative, n.whole, n.fraction, n.exponent⟩ : Numeral) = n := rfl
  rw [chars_append]
  cases hsign : n.negative with
  | true =>
    rw [hsign] at hn
    simp only [if_true, List.cons_append, List.nil_append]
    rw [Json.readNumeral?, hwhole]
    simp only [hfraction, hexponent, Option.bind_eq_bind, Option.bind_some, hn]
    rfl
  | false =>
    rw [hsign] at hn
    simp only [Bool.false_eq_true, if_false, List.nil_append]
    rw [Json.readNumeral?, hwhole]
    · simp only [hfraction, hexponent, Option.bind_eq_bind, Option.bind_some, hn]
      rfl
    · intro cs heq
      obtain ⟨c, whole, hwhole⟩ := List.exists_cons_of_ne_nil h.whole_ne_nil
      rw [hwhole, List.cons_append] at heq
      obtain rfl := (List.cons.inj heq).1
      exact absurd (h.whole_digits '-' (hwhole ▸ List.mem_cons_self)) (by decide)

lemma head?_toDigits {n : Nat} (h : 0 < n) : (Nat.toDigits 10 n).head? ≠ some '0' := by
  induction n using Nat.strongRecOn with
  | ind n ih =>
    rcases Nat.lt_or_ge n 10 with hlt | hge
    · rw [Nat.toDigits_of_lt_base hlt, List.head?_cons, ne_eq, Option.some.injEq,
        Nat.digitChar_eq_zero]
      omega
    · rw [Nat.toDigits_of_base_le (by norm_num) hge,
        List.head?_append_of_ne_nil _ Nat.toDigits_ne_nil]
      exact ih (n / 10) (by omega) (by omega)

lemma proper_ofNat (n : Nat) : (ofNat n).Proper where
  whole_ne_nil := Nat.toDigits_ne_nil
  whole_eq_zero h := by
    rcases Nat.eq_zero_or_pos n with rfl | hpos
    · rfl
    · exact absurd h (head?_toDigits hpos)
  whole_digits c hc := Nat.isDigit_of_mem_toDigits (by norm_num) le_rfl hc
  fraction_digits c hc := by cases hc
  exponent_ne_nil part hpart := by cases hpart
  exponent_digits part hpart := by cases hpart

lemma digitsValue_toDigits (n : Nat) : Binary64.digitsValue (Nat.toDigits 10 n) = n :=
  Nat.ofDigitChars_ten_toDigits

lemma toNat?_ofNat (n : Nat) : (ofNat n).toNat? = some n :=
  congrArg some (digitsValue_toDigits n)

lemma isSome_toBinary64?_ofNat {n : Nat} (h : n < 2 ^ 64) : (ofNat n).toBinary64?.isSome := by
  apply Binary64.isSome_ofParts?
  change Nat.ofDigitChars 10 (Nat.toDigits 10 n) 0 ≤ Binary64.wordMax
  rw [Nat.ofDigitChars_ten_toDigits, Binary64.wordMax, Nat.pow_eq]
  omega

lemma isFinite_of_toBinary64? {x : Binary64} (h : n.toBinary64? = some x) : x.isFinite :=
  Binary64.isFinite_of_ofParts? h

lemma isZero_of_toBinary64? {x : Binary64} (hzeros : ∀ c ∈ n.whole ++ n.fraction, c = '0')
    (h : n.toBinary64? = some x) : x.isZero := by
  have hread (digits : List Char) (hdigits : ∀ c ∈ digits, c = '0') :
      Binary64.leadingWord 0 digits = (0, []) := by
    rw [List.eq_replicate_of_mem hdigits]
    induction digits.length with
    | zero => rfl
    | succ count ih => exact ih
  obtain ⟨hwhole, hfraction⟩ := List.forall_mem_append.mp hzeros
  rw [toBinary64?, Binary64.ofParts?, hread _ hwhole] at h
  simp only [hread _ hfraction, if_true, Option.map_some, Option.some.injEq] at h
  subst h
  cases n.negative <;> rfl

/-- The places of a decimal are its digits and zeros, and begin with a zero only where it stands
alone. -/
lemma splitAtPoint_spec (d : Decimal) :
    (∀ c ∈ (Binary64.splitAtPoint d).1 ++ (Binary64.splitAtPoint d).2,
      c ∈ Nat.toDigits 10 d.digits ∨ c = '0') ∧
    (d.digits ≠ 0 → (Binary64.splitAtPoint d).1 = ['0'] ∨
      ∃ c ∈ (Binary64.splitAtPoint d).1.head?, c ≠ '0') := by
  have hhead (hd : d.digits ≠ 0) : ∃ c ∈ (Nat.toDigits 10 d.digits).head?, c ≠ '0' := by
    obtain ⟨c, hc⟩ := Option.isSome_iff_exists.mp
      (List.isSome_head?.mpr (Nat.toDigits_ne_nil (n := d.digits) (b := 10)))
    exact ⟨c, hc, fun hzero => head?_toDigits (Nat.pos_of_ne_zero hd) (hzero ▸ hc)⟩
  unfold Binary64.splitAtPoint Binary64.digitChars
  dsimp only
  generalize hdigits : Nat.toDigits 10 d.digits = digits at hhead ⊢
  split
  · constructor
    · intro c hc
      simp only [List.append_nil, List.mem_append] at hc
      exact hc.imp_right List.eq_of_mem_replicate
    · intro hd
      right
      rw [List.head?_append_of_ne_nil _ (hdigits ▸ Nat.toDigits_ne_nil)]
      exact hhead hd
  · split
    · rename_i hpoint
      constructor
      · intro c hc
        rw [List.take_append_drop] at hc
        exact .inl hc
      · intro hd
        right
        rw [List.head?_take, if_neg (by omega)]
        exact hhead hd
    · constructor
      · intro c hc
        simp only [List.mem_append, List.mem_singleton] at hc
        rcases hc with rfl | hc | hc
        · exact .inr rfl
        · exact .inr (List.eq_of_mem_replicate hc)
        · exact .inl hc
      · exact fun _ => .inl rfl

lemma mem_positional {negative : Bool} {d : Decimal} {c : Char}
    (h : c ∈ (positional negative d).whole ++ (positional negative d).fraction) :
    c ∈ Nat.toDigits 10 d.digits ∨ c = '0' := by
  rcases List.mem_append.mp h with h | h
  · exact (splitAtPoint_spec d).1 c (List.mem_append_left _ h)
  · simp only [positional] at h
    split_ifs at h
    · exact .inr (List.mem_singleton.mp h)
    · exact (splitAtPoint_spec d).1 c (List.mem_append_right _ h)

lemma mem_scientific {negative : Bool} {d : Decimal} {c : Char}
    (h : c ∈ (scientific negative d).whole ++ (scientific negative d).fraction) :
    c ∈ Nat.toDigits 10 d.digits := by
  change c ∈ (Nat.toDigits 10 d.digits).take 1 ++ (Nat.toDigits 10 d.digits).drop 1 at h
  rwa [List.take_append_drop] at h

lemma isDigit_of_mem {d : Decimal} {c : Char} (h : c ∈ Nat.toDigits 10 d.digits ∨ c = '0') :
    c.isDigit := by
  rcases h with h | rfl
  · exact Nat.isDigit_of_mem_toDigits (by norm_num) le_rfl h
  · rfl

lemma proper_positional (negative : Bool) {d : Decimal} (hd : d.digits ≠ 0) :
    (positional negative d).Proper where
  whole_ne_nil hnil := by
    change (Binary64.splitAtPoint d).1 = [] at hnil
    rcases (splitAtPoint_spec d).2 hd with hzero | ⟨c, hc, -⟩
    · simp [hnil] at hzero
    · simp [hnil] at hc
  whole_eq_zero hhead := by
    rcases (splitAtPoint_spec d).2 hd with hzero | ⟨c, hc, hne⟩
    · exact hzero
    · exact absurd (Option.some.inj (hc.symm.trans hhead)) hne
  whole_digits c hc := isDigit_of_mem (mem_positional (List.mem_append_left _ hc))
  fraction_digits c hc := isDigit_of_mem (mem_positional (List.mem_append_right _ hc))
  exponent_ne_nil part hpart := by cases hpart
  exponent_digits part hpart := by cases hpart

lemma proper_scientific (negative : Bool) {d : Decimal} (hd : d.digits ≠ 0) :
    (scientific negative d).Proper where
  whole_ne_nil hnil := by
    change (Nat.toDigits 10 d.digits).take 1 = [] at hnil
    simp [List.take_eq_nil_iff, Nat.toDigits_ne_nil] at hnil
  whole_eq_zero hhead := by
    change ((Nat.toDigits 10 d.digits).take 1).head? = some '0' at hhead
    rw [List.head?_take, if_neg one_ne_zero] at hhead
    exact absurd hhead (head?_toDigits (Nat.pos_of_ne_zero hd))
  whole_digits c hc := isDigit_of_mem (.inl (mem_scientific (List.mem_append_left _ hc)))
  fraction_digits c hc := isDigit_of_mem (.inl (mem_scientific (List.mem_append_right _ hc)))
  exponent_ne_nil part hpart := by
    obtain rfl := Option.mem_some_iff.mp hpart
    exact Nat.toDigits_ne_nil
  exponent_digits part hpart c hc := by
    obtain rfl := Option.mem_some_iff.mp hpart
    exact Nat.isDigit_of_mem_toDigits (by norm_num) le_rfl hc

lemma ofBinary64_layout {x : Binary64} (h : ¬x.isZero) :
    ofBinary64 x = positional x.negative (x.shortest .even) ∨
      ofBinary64 x = scientific x.negative (x.shortest .even) := by
  rw [ofBinary64, if_neg h]
  dsimp only
  split_ifs
  · exact .inl rfl
  · exact .inr rfl

/-- The numeral of a double that reads back has the form of a numeral: a decimal without digits
would have been read as a zero. -/
lemma proper_ofBinary64 {x : Binary64} (h : x.ReadsBack) : (ofBinary64 x).Proper := by
  by_cases hzero : x.isZero
  · rw [ofBinary64, if_pos hzero]
    constructor <;> simp
  · have hd : (x.shortest .even).digits ≠ 0 := by
      intro hd
      have hdigits (c : Char) (hc : c ∈ Nat.toDigits 10 (x.shortest .even).digits) : c = '0' := by
        rw [hd, Nat.toDigits_zero] at hc
        exact List.mem_singleton.mp hc
      apply hzero
      refine isZero_of_toBinary64? (fun c hc => ?_) h
      rcases ofBinary64_layout hzero with hlayout | hlayout <;> rw [hlayout] at hc
      · exact (mem_positional hc).elim (hdigits c) id
      · exact hdigits c (mem_scientific hc)
    rcases ofBinary64_layout hzero with hlayout | hlayout <;> rw [hlayout]
    · exact proper_positional x.negative hd
    · exact proper_scientific x.negative hd

end Numeral

end Dataflow
