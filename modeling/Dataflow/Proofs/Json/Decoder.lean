import Dataflow.Proofs.Json.Reader
import Dataflow.Wire.Field

/-!
# Decoding what was written

A value nests as deep as its arrays and objects stand in one another. A decoder reads a written
value exactly if it is told that it may enter that many levels: then it gives what was written, and
otherwise nothing. This goes from the items of an array to the array.
-/

namespace Dataflow

namespace Json

mutual

/-- The number of levels of arrays and objects. -/
def depth : Json → Nat
  | .array items => itemsDepth items + 1
  | .object members => membersDepth members + 1
  | .null | .bool _ | .number _ | .string _ | .broken => 0

/-- The greatest number of levels of some items. -/
def itemsDepth : List Json → Nat
  | [] => 0
  | item :: items => max item.depth (itemsDepth items)

/-- The greatest number of levels of the values of some members. -/
def membersDepth : List (String × Json) → Nat
  | [] => 0
  | (_, value) :: members => max value.depth (membersDepth members)

end

lemma itemsDepth_le_iff {items : List Json} {room : Nat} : itemsDepth items ≤ room ↔
    ∀ item ∈ items, item.depth ≤ room := by
  induction items with
  | nil => simp [itemsDepth]
  | cons item items ih => simp [itemsDepth, ih]

lemma depth_object_le_iff {members : List (String × Json)} {room : Nat} :
    (Json.object members).depth ≤ room + 1 ↔ ∀ member ∈ members, member.2.depth ≤ room := by
  rw [depth, Nat.add_le_add_iff_right]
  induction members with
  | nil => simp [membersDepth]
  | cons member members ih => simp [membersDepth, ih]

lemma depth_array_map_le {α : Type} {write : α → Json} {xs : List α} {room : Nat}
    (h : ∀ x ∈ xs, (write x).depth ≤ room) : (Json.array (xs.map write)).depth ≤ room + 1 := by
  rw [depth, Nat.add_le_add_iff_right, itemsDepth_le_iff]
  exact List.forall_mem_map.mpr h

lemma Proper.array_map {α : Type} {write : α → Json} {xs : List α}
    (h : ∀ x ∈ xs, (write x).Proper) : (Json.array (xs.map write)).Proper :=
  .array (List.forall_mem_map.mpr h)

lemma depth_le_of_mem {members : List (String × Json)} {name : String} {j : Json}
    (h : (name, j) ∈ members) : j.depth ≤ membersDepth members := by
  induction members with
  | nil => cases h
  | cons member members ih =>
    rw [membersDepth]
    rcases List.mem_cons.mp h with rfl | h
    · exact le_max_left _ _
    · exact (ih h).trans (le_max_right _ _)

mutual

/-- A value that a text can hold is sound as far as it nests. -/
lemma Proper.isSound_eq {j : Json} (h : j.Proper) (room : Nat) :
    isSound room j = decide (j.depth ≤ room) := by
  match j, room with
  | .null, _ | .bool _, _ | .string _, _ => simp [isSound, depth]
  | .number n, _ =>
    cases h with
    | number _ hsize => simp [isSound, depth, hsize]
  | .array items, 0 => simp [isSound, depth]
  | .object members, 0 => simp [isSound, depth]
  | .array items, room + 1 =>
    cases h with
    | array h => simp [isSound, depth, areSound_eq h room]
  | .object members, room + 1 =>
    cases h with
    | object h => simp [isSound, depth, membersAreSound_eq h room]
  | .broken, _ => nomatch h

lemma areSound_eq {items : List Json} (h : ∀ item ∈ items, item.Proper) (room : Nat) :
    areSound room items = decide (itemsDepth items ≤ room) := by
  match items with
  | [] => simp [areSound, itemsDepth]
  | item :: items =>
    obtain ⟨hitem, hitems⟩ := List.forall_mem_cons.mp h
    simp [areSound, itemsDepth, Proper.isSound_eq hitem room, areSound_eq hitems room]

lemma membersAreSound_eq {members : List (String × Json)} (h : ∀ m ∈ members, m.2.Proper)
    (room : Nat) : membersAreSound room members = decide (membersDepth members ≤ room) := by
  match members with
  | [] => simp [membersAreSound, membersDepth]
  | (_, value) :: members =>
    obtain ⟨hvalue, hmembers⟩ := List.forall_mem_cons.mp h
    simp only at hvalue
    simp [membersAreSound, membersDepth, Proper.isSound_eq hvalue room,
      membersAreSound_eq hmembers room]

end

end Json

/-- A decoder reads a value as what was written, if it may enter as many levels as there are, and
as nothing otherwise. -/
def Decoder.Reads {α : Type} (read : Decoder α) (j : Json) (x : α) : Prop :=
  ∀ room, read room j = if j.depth ≤ room then some x else none

namespace Decoder

variable {α : Type} {read : Decoder α} {write : α → Json} {xs : List α}

lemma Reads.items? (h : ∀ x ∈ xs, read.Reads (write x) x) :
    Reads (Json.items? read) (.array (xs.map write)) xs := by
  intro room
  cases room with
  | zero => simp [Json.items?, Json.depth]
  | succ room =>
    rw [Json.items?, Json.depth]
    simp only [Nat.add_le_add_iff_right]
    induction xs with
    | nil => rfl
    | cons x xs ih =>
      obtain ⟨hx, hxs⟩ := List.forall_mem_cons.mp h
      rw [List.map_cons, List.mapM_cons, hx room, ih hxs, Json.itemsDepth]
      simp only [max_le_iff]
      split_ifs <;> simp_all

lemma Reads.decodeText? {j : Json} {x : α} (h : read.Reads j x) (hproper : j.Proper) :
    Dataflow.decodeText? read j.text = if j.depth ≤ nestingLimit then some x else none := by
  rw [Dataflow.decodeText?, Json.ofText?_text hproper]
  exact h nestingLimit

end Decoder

namespace Json

lemma member?_of_mem {members : List (String × Json)} (hkeys : (members.map Prod.fst).Nodup)
    {name : String} {value : Json} (h : (name, value) ∈ members) :
    member? members name = some (some value) := by
  have hfilter : members.filter (·.1 == name) = [(name, value)] := by
    induction members with
    | nil => cases h
    | cons member members ih =>
      rw [List.map_cons, List.nodup_cons] at hkeys
      rcases List.mem_cons.mp h with rfl | h
      · have hrest : members.filter (·.1 == name) = [] := by
          rw [List.filter_eq_nil_iff]
          intro other hother heq
          exact hkeys.1 (List.mem_map.mpr ⟨other, hother, eq_of_beq heq⟩)
        simp [hrest]
      · have hne : ¬(member.1 == name) = true := by
          intro heq
          exact hkeys.1 (List.mem_map.mpr ⟨_, h, (eq_of_beq heq).symm⟩)
        simp only [List.filter_cons, if_neg hne, ih hkeys.2 h]
  rw [member?, hfilter]

lemma record?_object (members : List (String × Json)) (hkeys : (members.map Prod.fst).Nodup)
    (room : Nat) : record? (members.map Prod.fst) (room + 1) (.object members) =
      some (members.map fun member => some member.2) := by
  have hread (chosen : List (String × Json)) (h : chosen ⊆ members) :
      (chosen.map Prod.fst).mapM (member? members) = some (chosen.map fun m => some m.2) := by
    induction chosen with
    | nil => rfl
    | cons member chosen ih =>
      obtain ⟨hmember, hrest⟩ := List.cons_subset.mp h
      rw [List.map_cons, List.mapM_cons, member?_of_mem hkeys hmember, ih hrest]
      rfl
  exact hread members (List.Subset.refl _)

lemma word?_nat {n : Nat} (h : n < 2 ^ 64) : word? (.nat n) = some n := by
  have hlt : n < Nat.pow 2 64 := h
  simp only [word?, nat, Numeral.toNat?_ofNat, Option.filter_some, hlt, decide_true, if_true]

lemma lt_of_word? {j : Json} {n : Nat} (h : j.word? = some n) : n < 2 ^ 64 := by
  cases j with
  | number numeral =>
    exact of_decide_eq_true (Option.filter_eq_some_iff.mp h).2
  | null | bool b | string s | array items | object members | broken => cases h

lemma lt_of_required? {j : Option Json} {n : Nat} (h : required? word? j = some n) :
    n < 2 ^ 64 := by
  obtain ⟨j, -, h⟩ := Option.bind_eq_some_iff.mp h
  exact lt_of_word? h

lemma lt_of_default? {standard n : Nat} (hstandard : standard < 2 ^ 64) {j : Option Json}
    (h : default? standard word? j = some n) : n < 2 ^ 64 := by
  cases j with
  | none => exact Option.some.inj h ▸ hstandard
  | some j => exact lt_of_word? h

lemma forall_lt_of_default? {j : Option Json} {n : Option Nat}
    (h : default? none (nullable? word?) j = some n) : ∀ k ∈ n, k < 2 ^ 64 := by
  rcases n with - | n
  · exact nofun
  · rintro k ⟨⟩
    match j with
    | none => cases h
    | some j =>
      cases j with
      | number numeral =>
        obtain ⟨n, hn, ⟨⟩⟩ := Option.map_eq_some_iff.mp h
        exact lt_of_word? hn
      | null | bool b | string s | array items | object members | broken => cases h

lemma proper_nat {n : Nat} (h : n < 2 ^ 64) : (nat n).Proper :=
  .number (Numeral.proper_ofNat n) (Numeral.isSome_toBinary64?_ofNat h)

lemma nullable?_string (s : Option String) : nullable? string? (optional .string s) = some s := by
  cases s <;> rfl

lemma nullable?_nat {n : Option Nat} (h : ∀ k ∈ n, k < 2 ^ 64) :
    nullable? word? (optional nat n) = some n := by
  cases n with
  | none => rfl
  | some n =>
    change (word? (nat n)).map some = some (some n)
    rw [word?_nat (h n rfl)]
    rfl

lemma binary64?_binary64 {x : Binary64} (h : x.isFinite ∧ x.ReadsBack) :
    (binary64 x).binary64? = some x := by
  rw [binary64, if_pos h.1]
  exact h.2

lemma proper_binary64 {x : Binary64} (h : x.isFinite ∧ x.ReadsBack) : (binary64 x).Proper := by
  rw [binary64, if_pos h.1]
  exact .number (Numeral.proper_ofBinary64 h.2) (Option.isSome_of_eq_some h.2)

lemma isFinite_of_binary64? {j : Json} {x : Binary64} (h : j.binary64? = some x) : x.isFinite := by
  cases j with
  | number numeral => exact Numeral.isFinite_of_toBinary64? h
  | null | bool b | string s | array items | object members | broken => cases h

lemma isFinite_of_required? {j : Option Json} {x : Binary64}
    (h : required? binary64? j = some x) : x.isFinite := by
  obtain ⟨j, -, h⟩ := Option.bind_eq_some_iff.mp h
  exact isFinite_of_binary64? h

end Json

end Dataflow
