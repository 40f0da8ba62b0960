import Dataflow.Field.Cast
import Dataflow.Proofs.Text.Integer

/-!
# Laws of casts

A cast gives a value of its type, which casting again leaves alone. Texts keep integers and truth
values, and the wide integers keep the narrow ones, so that there is a way back; a cast to a narrow
integer may go by way of a wide one.
-/

namespace Dataflow

namespace Field

variable {column s : String} {target : AttributeType} {v u : Field}

lemma cast_eq_ok_iff : cast column target v = .ok u ↔
    v = .null ∧ u = .null ∨ v ≠ .null ∧ v.convert? target = some u := by
  rw [cast]
  split_ifs with hnull
  · simp [hnull, eq_comm]
  · cases hconvert : v.convert? target <;> simp [hnull]

lemma cast_eq_ok (hnull : v ≠ .null) (h : v.convert? target = some u) :
    cast column target v = .ok u :=
  cast_eq_ok_iff.mpr (.inr ⟨hnull, h⟩)

lemma type?_of_convert? (h : v.convert? target = some u) : u.type? = some target := by
  have hmap {α : Type} {read : Option α} {make : α → Field}
      (hmake : ∀ a, (make a).type? = some target) (h : read.map make = some u) :
      u.type? = some target := by
    obtain ⟨a, -, rfl⟩ := Option.map_eq_some_iff.mp h
    exact hmake a
  cases target with
  | string => cases v <;> cases h <;> rfl
  | integer => exact hmap (fun _ => rfl) h
  | long => exact hmap (fun _ => rfl) h
  | double => exact hmap (fun _ => rfl) h
  | boolean => exact hmap (fun _ => rfl) h
  | text => cases h
  | timestamp => cases h
  | list => cases h

/-- A value that has the type already is converted to itself, if values are converted to this type
at all. -/
lemma convert?_self (htype : u.type? = some target) (h : (v.convert? target).isSome) :
    u.convert? target = some u := by
  cases u <;> cases htype
  · rfl
  · cases h
  · rfl
  · rfl
  · rfl
  · rfl
  · cases h
  · cases h

lemma ne_null_of_type? {own : AttributeType} (h : v.type? = some own) : v ≠ .null := by
  rintro rfl
  cases h

lemma type?_of_cast (h : cast column target v = .ok u) : u = .null ∨ u.type? = some target := by
  rcases cast_eq_ok_iff.mp h with ⟨-, hu⟩ | ⟨-, hconvert⟩
  · exact .inl hu
  · exact .inr (type?_of_convert? hconvert)

lemma cast_of_cast (h : cast column target v = .ok u) : cast column target u = .ok u := by
  rcases cast_eq_ok_iff.mp h with ⟨-, rfl⟩ | ⟨-, hconvert⟩
  · exact cast_null column target
  · have htype := type?_of_convert? hconvert
    have hsome := Option.isSome_iff_exists.mpr ⟨u, hconvert⟩
    exact cast_eq_ok (ne_null_of_type? htype) (convert?_self htype hsome)

lemma cast_eq_null_iff : cast column target v = .ok .null ↔ v = .null := by
  constructor
  · intro h
    rcases cast_eq_ok_iff.mp h with ⟨hv, -⟩ | ⟨-, hconvert⟩
    · exact hv
    · cases type?_of_convert? hconvert
  · rintro rfl
    exact cast_null column target

lemma int32_bounds (n : Int32) : int32Min ≤ n.toInt ∧ n.toInt ≤ int32Max := by
  have hlow := n.le_toInt
  have hhigh := n.toInt_lt
  rw [int32Min, int32Max]
  omega

lemma int64_bounds (n : Int64) : int64Min ≤ n.toInt ∧ n.toInt ≤ int64Max := by
  have hlow := n.le_toInt
  have hhigh := n.toInt_lt
  rw [int64Min, int64Max]
  omega

lemma toInt_ofInt32 {n : Int} (hlow : int32Min ≤ n) (hhigh : n ≤ int32Max) :
    (Int32.ofInt n).toInt = n := by
  rw [int32Min] at hlow
  rw [int32Max] at hhigh
  exact Int32.toInt_ofInt_of_le (by omega) (by omega)

lemma toInt_ofInt64 {n : Int} (hlow : int64Min ≤ n) (hhigh : n ≤ int64Max) :
    (Int64.ofInt n).toInt = n := by
  rw [int64Min] at hlow
  rw [int64Max] at hhigh
  exact Int64.toInt_ofInt_of_le (by omega) (by omega)

/-- A wide integer is narrowed if it lies in the narrow range, and only to itself. -/
lemma toInteger?_long_eq_some_iff {n : Int64} {m : Int32} :
    (long n).toInteger? = some m ↔ m.toInt = n.toInt := by
  rw [toInteger?, Option.map_eq_some_iff]
  simp only [boundedInteger?_eq_some_iff]
  constructor
  · rintro ⟨_, ⟨rfl, hlow, hhigh⟩, rfl⟩
    exact toInt_ofInt32 hlow hhigh
  · intro h
    have hbounds := int32_bounds m
    rw [h] at hbounds
    exact ⟨n.toInt, ⟨rfl, hbounds⟩, by rw [← h, Int32.ofInt_toInt]⟩

lemma toInteger?_long_toInt64 (n : Int32) : (long n.toInt64).toInteger? = some n :=
  toInteger?_long_eq_some_iff.mpr n.toInt_toInt64.symm

lemma toInt64_of_toInteger? {n : Int64} {m : Int32} (h : (long n).toInteger? = some m) :
    m.toInt64 = n :=
  Int64.toInt_inj.mp (m.toInt_toInt64.trans (toInteger?_long_eq_some_iff.mp h))

lemma exists_toInteger?_long_iff {n : Int64} :
    (∃ m, (long n).toInteger? = some m) ↔ -2 ^ 31 ≤ n.toInt ∧ n.toInt < 2 ^ 31 := by
  constructor
  · rintro ⟨m, hm⟩
    rw [← toInteger?_long_eq_some_iff.mp hm]
    exact ⟨m.le_toInt, m.toInt_lt⟩
  · rintro ⟨hlow, hhigh⟩
    exact ⟨.ofInt n.toInt,
      toInteger?_long_eq_some_iff.mpr (Int32.toInt_ofInt_of_le hlow hhigh)⟩

lemma toInteger?_string_display (n : Int32) :
    (string (integer n).display).toInteger? = some n := by
  obtain ⟨hlow, hhigh⟩ := int32_bounds n
  rw [display, toInteger?, trimBlanks_toString, integerOfText?_toString hlow hhigh,
    Option.map_some, Int32.ofInt_toInt]

lemma toLong?_string_display (n : Int64) : (string (long n).display).toLong? = some n := by
  obtain ⟨hlow, hhigh⟩ := int64_bounds n
  rw [display, toLong?, trimBlanks_toString, integerOfText?_toString hlow hhigh,
    Option.map_some, Int64.ofInt_toInt]

lemma toBoolean?_string_display (b : Bool) :
    (string (boolean b).display).toBoolean? = some b := by
  cases b <;> decide +kernel

/-- What is shown of a narrow integer or a truth value, or of a wide integer, can be read again. -/
lemma convert?_string_display {own : AttributeType} (htype : v.type? = some own)
    (hown : own = .integer ∨ own = .long ∨ own = .boolean) :
    v.convert? .string = some (.string v.display) ∧
      (string v.display).convert? own = some v := by
  rcases hown with rfl | rfl | rfl <;> cases v <;> cases htype
  · exact ⟨rfl, by rw [convert?, toInteger?_string_display, Option.map_some]⟩
  · exact ⟨rfl, by rw [convert?, toLong?_string_display, Option.map_some]⟩
  · exact ⟨rfl, by rw [convert?, toBoolean?_string_display, Option.map_some]⟩

/-- A text is read as a narrow integer exactly if it is read as a wide one that can be narrowed. -/
lemma toInteger?_of_text? (h : v.text? = some s) :
    v.toInteger? = v.toLong?.bind fun n => (long n).toInteger? := by
  have hinteger : v.toInteger? =
      (integerOfText? int32Min int32Max (trimBlanks s)).map .ofInt := by
    cases v <;> cases h <;> rfl
  have hlong : v.toLong? = (integerOfText? int64Min int64Max (trimBlanks s)).map .ofInt := by
    cases v <;> cases h <;> rfl
  rw [hinteger, hlong, ← bind_integerOfText? (by decide : int64Min ≤ int32Min)
    (by decide : int32Max ≤ int64Max), Option.map_bind, Option.bind_map]
  refine Option.bind_congr fun n hn => ?_
  obtain ⟨hlow, hhigh⟩ := integerOfText?_bounds hn
  rw [Function.comp_apply, Function.comp_apply, toInteger?, toInt_ofInt64 hlow hhigh]

/-- Casting again changes nothing. Integers of either width and truth values come back from a text,
and narrow integers from wide ones. A wide integer or a point in time becomes a narrow integer
exactly within the range of these, and comes back as a wide one. A text becomes a narrow integer
exactly if it becomes a wide one that does, and the same one. No value stays no value, nothing else
becomes none, and whatever a cast gives has its type. -/
theorem casts_cohere (column : String) :
    (∀ target v u, cast column target v = .ok u → cast column target u = .ok u) ∧
    (∀ v own, v.type? = some own → own = .integer ∨ own = .long ∨ own = .boolean →
      ∃ s, cast column .string v = .ok (.string s) ∧ cast column own (.string s) = .ok v) ∧
    (∀ n, ∃ m, cast column .long (.integer n) = .ok (.long m) ∧
      cast column .integer (.long m) = .ok (.integer n)) ∧
    (∀ n v, v = .long n ∨ v = .timestamp n →
      ((∃ u, cast column .integer v = .ok u) ↔ -2 ^ 31 ≤ n.toInt ∧ n.toInt < 2 ^ 31) ∧
      ∀ u, cast column .integer v = .ok u → cast column .long u = .ok (.long n)) ∧
    (∀ v s, v.text? = some s → ∀ u, cast column .integer v = .ok u ↔
      ∃ w, cast column .long v = .ok w ∧ cast column .integer w = .ok u) ∧
    (∀ target v, cast column target v = .ok .null ↔ v = .null) ∧
    ∀ target v u, cast column target v = .ok u → u = .null ∨ u.type? = some target := by
  refine ⟨fun _ _ _ => cast_of_cast, fun v own htype hown => ?_, fun n => ?_, fun n v hv => ?_,
    fun v s hs u => ?_, fun _ _ => cast_eq_null_iff, fun _ _ _ => type?_of_cast⟩
  · obtain ⟨hwritten, hread⟩ := convert?_string_display htype hown
    exact ⟨v.display, cast_eq_ok (ne_null_of_type? htype) hwritten, cast_eq_ok nofun hread⟩
  · refine ⟨n.toInt64, rfl, cast_eq_ok nofun ?_⟩
    rw [convert?, toInteger?_long_toInt64, Option.map_some]
  · have hcast (u : Field) : cast column .integer v = .ok u ↔
        ∃ m, (long n).toInteger? = some m ∧ u = .integer m := by
      rcases hv with rfl | rfl <;>
      · simp only [cast_eq_ok_iff, convert?, Option.map_eq_some_iff, eq_comm (a := u)]
        simp [toInteger?]
    refine ⟨?_, fun u hu => ?_⟩
    · rw [← exists_toInteger?_long_iff]
      simp only [hcast]
      exact ⟨fun ⟨_, m, hm, _⟩ => ⟨m, hm⟩, fun ⟨m, hm⟩ => ⟨_, m, hm, rfl⟩⟩
    · obtain ⟨m, hm, rfl⟩ := (hcast u).mp hu
      rw [← toInt64_of_toInteger? hm]
      rfl
  · have hv : v ≠ .null := by
      rintro rfl
      cases hs
    simp only [cast_eq_ok_iff, hv, false_and, false_or, ne_eq, not_false_eq_true, true_and,
      convert?, toInteger?_of_text? hs, Option.map_eq_some_iff, Option.bind_eq_some_iff]
    constructor
    · rintro ⟨m, ⟨n, hn, hm⟩, rfl⟩
      exact ⟨.long n, ⟨n, hn, rfl⟩, .inr ⟨nofun, m, hm, rfl⟩⟩
    · rintro ⟨_, ⟨n, hn, rfl⟩, ⟨hnull, -⟩ | ⟨-, m, hm, rfl⟩⟩
      · cases hnull
      · exact ⟨m, ⟨n, hn, hm⟩, rfl⟩

example : cast "n" .long (.string " -9223372036854775808\n") = .ok (.long (.ofInt (-2 ^ 63))) := by
  decide +kernel

end Field

end Dataflow
