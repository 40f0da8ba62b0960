import Mathlib.Data.String.Basic
import Mathlib.Tactic
import Dataflow.Text.Scan

/-!
# Places of a text

A place of a text is its start, its end, or a boundary between two of its characters, counted in
bytes. The part between two places can be taken out of the text; between other numbers of bytes
there is no part.
-/

namespace Dataflow

lemma utf8ByteSize_eq (text : String) : text.utf8ByteSize = byteLength text.toList := by
  have h (cs : List Char) : String.utf8Len cs = byteLength cs := by
    induction cs with
    | nil => rfl
    | cons c cs ih => rw [String.utf8Len_cons, ih, byteLength_cons, Nat.add_comm]
  rw [← h, ← String.utf8ByteSize_ofList, String.ofList_toList]

lemma byteLength_pos {cs : List Char} (h : cs ≠ []) : 0 < byteLength cs := by
  obtain ⟨c, cs, rfl⟩ := List.exists_cons_of_ne_nil h
  exact Nat.add_pos_left c.utf8Size_pos _

lemma utf8ByteSize_pos {text : String} (h : text ≠ "") : 0 < text.utf8ByteSize :=
  Nat.pos_of_ne_zero (mt String.utf8ByteSize_eq_zero_iff.mp h)

/-- Of two places where a text can be cut, the one with fewer bytes before it comes first. -/
lemma exists_append_of_byteLength_le {before rest upTo after : List Char}
    (h : before ++ rest = upTo ++ after) (hle : byteLength before ≤ byteLength upTo) :
    ∃ between, upTo = before ++ between ∧ rest = between ++ after := by
  rcases List.append_eq_append_iff.mp h with hbetween | ⟨more, rfl, rfl⟩
  · exact hbetween
  · rcases eq_or_ne more [] with rfl | hmore
    · exact ⟨[], by simp⟩
    · rw [byteLength_append] at hle
      exact absurd hle (by have := byteLength_pos hmore; omega)

/-- The part of a text between two places; none if they are not places of the text, or not in
order. -/
def slice? (text : String) (start stop : Nat) : Option String :=
  if start ≤ stop ∧ (⟨start⟩ : String.Pos.Raw).IsValid text ∧
      (⟨stop⟩ : String.Pos.Raw).IsValid text then
    some (String.Pos.Raw.extract text ⟨start⟩ ⟨stop⟩)
  else none

variable {text part : String} {start stop : Nat}

lemma isValid_iff : (⟨start⟩ : String.Pos.Raw).IsValid text ↔
    ∃ before after, text.toList = before ++ after ∧ byteLength before = start := by
  rw [String.Pos.Raw.isValid_iff_exists_append]
  constructor
  · rintro ⟨s, t, rfl, h⟩
    refine ⟨s.toList, t.toList, String.toList_append, ?_⟩
    rw [← utf8ByteSize_eq, ← String.byteIdx_rawEndPos, ← h]
  · rintro ⟨before, after, h, rfl⟩
    refine ⟨String.ofList before, String.ofList after, ?_, ?_⟩
    · rw [← String.ofList_append, ← h, String.ofList_toList]
    · ext
      rw [String.byteIdx_rawEndPos, utf8ByteSize_eq, String.toList_ofList]

/-- A part is what stands between the characters before the one place and those behind the other. -/
lemma slice?_eq_of_toList {before between after : List Char}
    (h : text.toList = before ++ between ++ after) :
    slice? text (byteLength before) (byteLength before + byteLength between) =
      some (String.ofList between) := by
  have hstart : (⟨byteLength before⟩ : String.Pos.Raw).IsValid text :=
    isValid_iff.mpr ⟨before, between ++ after, by rw [h, List.append_assoc], rfl⟩
  have hstop : (⟨byteLength before + byteLength between⟩ : String.Pos.Raw).IsValid text :=
    isValid_iff.mpr ⟨before ++ between, after, h, byteLength_append ..⟩
  rw [slice?, if_pos ⟨Nat.le_add_right .., hstart, hstop⟩]
  have hextract := String.extract_of_valid before between after
  rwa [← h, String.ofList_toList, ← String.utf8ByteSize_ofList, ← String.utf8ByteSize_ofList,
    utf8ByteSize_eq, utf8ByteSize_eq, String.toList_ofList, String.toList_ofList,
    ← Option.some.injEq] at hextract

lemma slice?_eq_left {before after : List Char} (h : text.toList = before ++ after) :
    slice? text (byteLength before) text.utf8ByteSize = some (String.ofList after) := by
  rw [utf8ByteSize_eq, h, byteLength_append]
  exact slice?_eq_of_toList (h.trans (List.append_nil _).symm)

lemma slice?_eq_some_iff : slice? text start stop = some part ↔ ∃ before after,
    text.toList = before ++ part.toList ++ after ∧ byteLength before = start ∧
      start + byteLength part.toList = stop := by
  constructor
  · intro h
    rw [slice?] at h
    split_ifs at h with hplaces
    obtain ⟨hle, hstart, hstop⟩ := hplaces
    obtain ⟨before, rest, htext, rfl⟩ := isValid_iff.mp hstart
    obtain ⟨upTo, after, htext', rfl⟩ := isValid_iff.mp hstop
    obtain ⟨between, rfl, rfl⟩ := exists_append_of_byteLength_le (htext.symm.trans htext') hle
    rw [← List.append_assoc] at htext
    have hslice := slice?_eq_of_toList htext
    rw [slice?, if_pos ⟨Nat.le_add_right .., hstart, by rwa [← byteLength_append]⟩,
      ← byteLength_append, h, Option.some.injEq] at hslice
    rw [hslice, String.toList_ofList]
    exact ⟨before, after, htext, rfl, (byteLength_append ..).symm⟩
  · rintro ⟨before, after, h, rfl, rfl⟩
    rw [slice?_eq_of_toList h, String.ofList_toList]

lemma lt_of_slice? (h : slice? text start stop = some part) (hne : part ≠ "") : start < stop := by
  obtain ⟨before, after, -, rfl, rfl⟩ := slice?_eq_some_iff.mp h
  exact Nat.lt_add_of_pos_right (byteLength_pos (by simpa using hne))

lemma exists_slice?_iff : (∃ part, slice? text start stop = some part) ↔ start ≤ stop ∧
    (⟨start⟩ : String.Pos.Raw).IsValid text ∧ (⟨stop⟩ : String.Pos.Raw).IsValid text := by
  rw [← Option.isSome_iff_exists, slice?]
  split_ifs with h <;> simp [h]

lemma le_utf8ByteSize (h : (⟨start⟩ : String.Pos.Raw).IsValid text) :
    start ≤ text.utf8ByteSize := by
  obtain ⟨before, after, htext, rfl⟩ := isValid_iff.mp h
  rw [utf8ByteSize_eq, htext, byteLength_append]
  exact Nat.le_add_right ..

section Between

variable {cs : List Char} {offset : Nat}

lemma between_append (cs ds : List Char) : between start stop offset (cs ++ ds) =
    between start stop offset cs ++ between start stop (offset + byteLength cs) ds := by
  induction cs generalizing offset with
  | nil => rfl
  | cons c cs ih =>
    simp only [List.cons_append, between, ih, byteLength_cons, Nat.add_assoc]
    split_ifs <;> rfl

lemma between_eq_nil_of_le (h : offset + byteLength cs ≤ start) :
    between start stop offset cs = [] := by
  induction cs generalizing offset with
  | nil => rfl
  | cons c cs ih =>
    rw [byteLength_cons, ← Nat.add_assoc] at h
    have := c.utf8Size_pos
    rw [between, ih h, if_neg (by omega)]

lemma between_eq_nil_of_ge (h : stop ≤ offset) : between start stop offset cs = [] := by
  induction cs generalizing offset with
  | nil => rfl
  | cons c cs ih => rw [between, ih (h.trans (Nat.le_add_right ..)), if_neg (by omega)]

lemma between_eq_self (hstart : start ≤ offset) (hstop : offset + byteLength cs ≤ stop) :
    between start stop offset cs = cs := by
  induction cs generalizing offset with
  | nil => rfl
  | cons c cs ih =>
    rw [byteLength_cons, ← Nat.add_assoc] at hstop
    have := c.utf8Size_pos
    rw [between, ih (hstart.trans (Nat.le_add_right ..)) hstop, if_pos (by omega)]

end Between

lemma textBetween_eq (h : slice? text start stop = some part) :
    textBetween text start stop = part := by
  obtain ⟨before, after, htext, rfl, rfl⟩ := slice?_eq_some_iff.mp h
  rw [textBetween, htext, between_append, between_append, byteLength_append, Nat.zero_add,
    Nat.zero_add, between_eq_nil_of_le (Nat.zero_add _).le, between_eq_self le_rfl le_rfl,
    between_eq_nil_of_ge le_rfl, List.nil_append, List.append_nil, String.ofList_toList]

end Dataflow
