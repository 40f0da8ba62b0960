import Dataflow.Proofs.Text.Places

/-!
# Finding a word from left to right

A word occurs in a text where its characters stand one after the other. A search from left to right
takes the first occurrence and goes on behind it. What it takes does not overlap, and no occurrence
begins outside of what it takes; only one list of places is like that.
-/

namespace Dataflow

/-- A word occurs at a place of characters that begin at an offset. -/
def OccursAt (word : List Char) (offset : Nat) (cs : List Char) (place : Nat) : Prop :=
  ∃ before after, cs = before ++ word ++ after ∧ offset + byteLength before = place

namespace OccursAt

variable {word cs before : List Char} {offset place : Nat} {c : Char}

lemma cons_iff : OccursAt word offset (c :: cs) place ↔
    word <+: c :: cs ∧ offset = place ∨ OccursAt word (offset + c.utf8Size) cs place := by
  constructor
  · rintro ⟨before, after, hcs, rfl⟩
    cases before with
    | nil => exact .inl ⟨⟨after, hcs.symm⟩, rfl⟩
    | cons d before =>
      rw [List.cons_append, List.cons_append] at hcs
      obtain ⟨rfl, rfl⟩ := List.cons.inj hcs
      exact .inr ⟨before, after, rfl, by rw [byteLength_cons, Nat.add_assoc]⟩
  · rintro (⟨⟨after, hcs⟩, rfl⟩ | ⟨before, after, rfl, rfl⟩)
    · exact ⟨[], after, hcs.symm, rfl⟩
    · exact ⟨c :: before, after, rfl, by rw [byteLength_cons, Nat.add_assoc]⟩

lemma nil_iff (hword : word ≠ []) : ¬ OccursAt word offset [] place := by
  rintro ⟨before, after, h, -⟩
  exact hword (List.append_eq_nil_iff.mp (List.append_eq_nil_iff.mp h.symm).1).2

lemma le (h : OccursAt word offset cs place) : offset ≤ place := by
  obtain ⟨before, after, -, rfl⟩ := h
  exact Nat.le_add_right ..

lemma append (h : OccursAt word (offset + byteLength before) cs place) :
    OccursAt word offset (before ++ cs) place := by
  obtain ⟨between, after, rfl, rfl⟩ := h
  exact ⟨before ++ between, after, by simp, by rw [byteLength_append, Nat.add_assoc]⟩

lemma of_append (h : OccursAt word offset (before ++ cs) place)
    (hplace : offset + byteLength before ≤ place) :
    OccursAt word (offset + byteLength before) cs place := by
  obtain ⟨upTo, after, hcs, rfl⟩ := h
  rw [List.append_assoc] at hcs
  obtain ⟨between, rfl, rfl⟩ :=
    exists_append_of_byteLength_le hcs (Nat.le_of_add_le_add_left hplace)
  exact ⟨between, after, (List.append_assoc ..).symm, by rw [byteLength_append, Nat.add_assoc]⟩

end OccursAt

/-- A search from left to right finds a word at some places: where the word comes next it is taken,
and where it does not, the next character is passed over. -/
inductive Searches (word : List Char) : Nat → List Char → List Nat → Prop
  | finish {offset : Nat} : Searches word offset [] []
  | skip {offset : Nat} {c : Char} {cs : List Char} {places : List Nat}
    (hbegins : ¬ word <+: c :: cs) (hrest : Searches word (offset + c.utf8Size) cs places) :
    Searches word offset (c :: cs) places
  | hit {offset : Nat} {after : List Char} {places : List Nat}
    (hrest : Searches word (offset + byteLength word) after places) :
    Searches word offset (word ++ after) (offset :: places)

namespace Searches

variable {word cs : List Char} {offset : Nat} {places : List Nat}

lemma occursAt (h : Searches word offset cs places) :
    ∀ place ∈ places, OccursAt word offset cs place := by
  induction h with
  | finish => exact List.forall_mem_nil _
  | skip hbegins hrest ih =>
    exact fun place hplace => OccursAt.cons_iff.mpr (.inr (ih place hplace))
  | hit hrest ih =>
    exact List.forall_mem_cons.mpr ⟨⟨[], _, rfl, rfl⟩, fun place hplace => (ih place hplace).append⟩

lemma pairwise (h : Searches word offset cs places) :
    places.Pairwise fun p q => p + byteLength word ≤ q := by
  induction h with
  | finish => exact .nil
  | skip hbegins hrest ih => exact ih
  | hit hrest ih => exact .cons (fun place hplace => (hrest.occursAt place hplace).le) ih

lemma exists_le (hword : word ≠ []) (h : Searches word offset cs places) {place : Nat}
    (hplace : OccursAt word offset cs place) :
    ∃ p ∈ places, p ≤ place ∧ place < p + byteLength word := by
  induction h with
  | finish => exact absurd hplace (OccursAt.nil_iff hword)
  | skip hbegins hrest ih =>
    exact ih ((OccursAt.cons_iff.mp hplace).resolve_left fun h => hbegins h.1)
  | @hit offset after places hrest ih =>
    by_cases hlt : place < offset + byteLength word
    · exact ⟨offset, List.mem_cons_self, hplace.le, hlt⟩
    · obtain ⟨p, hp, hle⟩ := ih (hplace.of_append (not_lt.mp hlt))
      exact ⟨p, List.mem_cons_of_mem _ hp, hle⟩

end Searches

section Scan

variable {word cs : List Char} {offset : Nat} {before before' : Option Char}

/-- The number of characters of a word if it comes next. -/
abbrev matchedBy (word : List Char) : Option Char → List Char → Nat :=
  fun _ cs => if word.isPrefixOf cs then word.length else 0

lemma scan_before (skip : Nat) : scan (matchedBy word) skip before offset cs =
    scan (matchedBy word) skip before' offset cs := by
  cases cs with
  | nil => rfl
  | cons c cs => cases skip <;> rfl

lemma scan_skip (skipped : List Char) :
    scan (matchedBy word) skipped.length before offset (skipped ++ cs) =
      scan (matchedBy word) 0 before (offset + byteLength skipped) cs := by
  induction skipped generalizing before offset with
  | nil => rfl
  | cons c skipped ih =>
    rw [List.cons_append, List.length_cons, scan, ih, byteLength_cons, Nat.add_assoc]
    exact scan_before 0

lemma scan_of_hit (hword : word ≠ []) : scan (matchedBy word) 0 before offset (word ++ cs) =
    (offset, offset + byteLength word) ::
      scan (matchedBy word) 0 before (offset + byteLength word) cs := by
  obtain ⟨c, more, rfl⟩ := List.exists_cons_of_ne_nil hword
  have hmatched : matchedBy (c :: more) before (c :: (more ++ cs)) = more.length + 1 :=
    if_pos (List.isPrefixOf_iff_prefix.mpr (List.prefix_append (c :: more) cs))
  have hscan : scan (matchedBy (c :: more)) 0 before offset (c :: (more ++ cs)) =
      (offset, offset + c.utf8Size + byteLength ((more ++ cs).take more.length)) ::
        scan (matchedBy (c :: more)) more.length (some c) (offset + c.utf8Size) (more ++ cs) := by
    rw [scan, hmatched]
  rw [List.cons_append, hscan, scan_skip, List.take_left, byteLength_cons, Nat.add_assoc]
  exact congrArg _ (scan_before 0)

lemma scan_of_skip {c : Char} (h : ¬ word <+: c :: cs) :
    scan (matchedBy word) 0 before offset (c :: cs) =
      scan (matchedBy word) 0 before (offset + c.utf8Size) cs := by
  have hmatched : matchedBy word before (c :: cs) = 0 :=
    if_neg (mt List.isPrefixOf_iff_prefix.mp h)
  rw [scan, hmatched]
  exact scan_before 0

/-- The scan searches from left to right. -/
lemma exists_searches_scan (hword : word ≠ []) (before : Option Char) (offset : Nat)
    (cs : List Char) : ∃ places, Searches word offset cs places ∧
      scan (matchedBy word) 0 before offset cs =
        places.map fun place => (place, place + byteLength word) := by
  induction hlength : cs.length using Nat.strongRecOn generalizing offset cs with
  | ind n ih =>
    cases cs with
    | nil => exact ⟨[], .finish, rfl⟩
    | cons c cs =>
      by_cases hbegins : word <+: c :: cs
      · obtain ⟨after, hafter⟩ := hbegins
        have hlt : after.length < n := by
          have := List.length_pos_iff.mpr hword
          rw [← hlength, ← hafter, List.length_append]
          omega
        obtain ⟨places, hsearches, hscan⟩ := ih _ hlt (offset + byteLength word) after rfl
        rw [← hafter]
        exact ⟨offset :: places, .hit hsearches, by rw [scan_of_hit hword, hscan, List.map_cons]⟩
      · obtain ⟨places, hsearches, hscan⟩ :=
          ih cs.length (hlength ▸ Nat.lt_succ_self _) (offset + c.utf8Size) cs rfl
        exact ⟨places, .skip hbegins hsearches, by rw [scan_of_skip hbegins, hscan]⟩

end Scan

/-- The occurrences of a word are found by a search from left to right. -/
theorem exists_searches_occurrences {word : List Char} (hword : word ≠ []) (cs : List Char) :
    ∃ places, Searches word 0 cs places ∧
      occurrences word cs = places.map fun place => (place, place + byteLength word) :=
  exists_searches_scan hword ..

/-- A letter has as many bytes in lower case. -/
lemma utf8Size_toLower (c : Char) : c.toLower.utf8Size = c.utf8Size := by
  by_cases h : c.val ≥ 'A'.val ∧ c.val ≤ 'Z'.val
  · have hval : c.toLower.val = c.val + ('a'.val - 'A'.val) := congrArg Char.val (dif_pos h)
    obtain ⟨hlow, hhigh⟩ := h
    rw [ge_iff_le, UInt32.le_iff_toNat_le] at hlow
    rw [UInt32.le_iff_toNat_le] at hhigh
    have hlow : 65 ≤ c.val.toNat := hlow
    have hhigh : c.val.toNat ≤ 90 := hhigh
    have hlower : c.toLower.val.toNat = c.val.toNat + 32 := by
      rw [hval, UInt32.toNat_add]
      exact Nat.mod_eq_of_lt (by change c.val.toNat + 32 < _; omega)
    rw [Char.utf8Size_eq_one_iff.mpr, Char.utf8Size_eq_one_iff.mpr]
    · rw [UInt32.le_iff_toNat_le]
      exact hhigh.trans (by decide)
    · rw [UInt32.le_iff_toNat_le, hlower]
      exact (Nat.add_le_add_right hhigh 32).trans (by decide)
  · have hlower : c.toLower = c := dif_neg h
    rw [hlower]

lemma byteLength_map_toLower (cs : List Char) :
    byteLength (cs.map Char.toLower) = byteLength cs := by
  induction cs with
  | nil => rfl
  | cons c cs ih => rw [List.map_cons, byteLength_cons, byteLength_cons, utf8Size_toLower, ih]

lemma toList_toLower (s : String) : s.toLower.toList = s.toList.map Char.toLower :=
  String.toList_map

lemma utf8ByteSize_toLower (s : String) : s.toLower.utf8ByteSize = s.utf8ByteSize := by
  rw [utf8ByteSize_eq, utf8ByteSize_eq, toList_toLower, byteLength_map_toLower]

lemma byteLength_toList_toLower (s : String) : byteLength s.toLower.toList = s.utf8ByteSize := by
  rw [← utf8ByteSize_eq, utf8ByteSize_toLower]

lemma toList_toLower_ne_nil {s : String} (h : s ≠ "") : s.toLower.toList ≠ [] := by
  rw [toList_toLower]
  simpa using h

/-- A query occurs at a place of a text, regardless of the case of the letters from A to Z. -/
def Occurs (query text : String) (place : Nat) : Prop :=
  ∃ part, slice? text place (place + query.utf8ByteSize) = some part ∧ part.toLower = query.toLower

/-- Places where a query occurs that do not overlap, so that the query begins nowhere outside. -/
structure Leftmost (query text : String) (places : List Nat) : Prop where
  occurs : ∀ p ∈ places, Occurs query text p
  apart : places.Pairwise fun p q => p + query.utf8ByteSize ≤ q
  /-- Where the query occurs, it begins in one of these occurrences. -/
  covers : ∀ q, Occurs query text q → ∃ p ∈ places, p ≤ q ∧ q < p + query.utf8ByteSize

section Folded

variable {query text : String} {place : Nat} {places places' : List Nat}

/-- A query occurs where it does when all letters are in lower case. -/
lemma occurs_iff : Occurs query text place ↔
    OccursAt query.toLower.toList 0 text.toLower.toList place := by
  rw [toList_toLower query, toList_toLower text]
  constructor
  · rintro ⟨part, hslice, hpart⟩
    obtain ⟨before, after, htext, rfl, -⟩ := slice?_eq_some_iff.mp hslice
    refine ⟨before.map Char.toLower, after.map Char.toLower, ?_, ?_⟩
    · rw [htext, ← toList_toLower query, ← hpart, toList_toLower, List.map_append, List.map_append]
    · rw [byteLength_map_toLower, Nat.zero_add]
  · rintro ⟨before, after, htext, rfl⟩
    obtain ⟨upTo, after, hparts, hupTo, rfl⟩ := List.map_eq_append_iff.mp htext
    obtain ⟨before, part, rfl, rfl, hpart⟩ := List.map_eq_append_iff.mp hupTo
    have hsize : byteLength part = query.utf8ByteSize := by
      rw [utf8ByteSize_eq, ← byteLength_map_toLower, hpart, byteLength_map_toLower]
    refine ⟨String.ofList part, ?_, ?_⟩
    · rw [byteLength_map_toLower, Nat.zero_add, ← hsize]
      exact slice?_eq_of_toList hparts
    · rw [← String.toList_inj, toList_toLower, toList_toLower, String.toList_ofList, hpart]

/-- A search from left to right for a query that is not empty finds all there is. -/
lemma Searches.leftmost (hquery : query ≠ "")
    (h : Searches query.toLower.toList 0 text.toLower.toList places) :
    Leftmost query text places := by
  have hsize := byteLength_toList_toLower query
  refine ⟨fun p hp => occurs_iff.mpr (h.occursAt p hp), hsize ▸ h.pairwise, fun q hq => ?_⟩
  rw [← hsize]
  exact h.exists_le (toList_toLower_ne_nil hquery) (occurs_iff.mp hq)

namespace Leftmost

lemma le_of_lt (h : Leftmost query text places) {p q : Nat} (hp : p ∈ places) (hq : q ∈ places)
    (hlt : p < q) : p + query.utf8ByteSize ≤ q := by
  have happart : places.Pairwise fun p q =>
      p = q ∨ p + query.utf8ByteSize ≤ q ∨ q + query.utf8ByteSize ≤ p :=
    h.apart.imp fun hle => .inr (.inl hle)
  have hsymm : Std.Symm fun p q : Nat =>
      p = q ∨ p + query.utf8ByteSize ≤ q ∨ q + query.utf8ByteSize ≤ p :=
    ⟨fun p q h => by omega⟩
  have := happart.forall_of_forall (fun p _ => .inl rfl) hp hq
  omega

/-- The places of one list are in the other: the least one that is not would overlap with one of
the other list, which would have to be in both. -/
lemma mem_of_mem (h : Leftmost query text places) (h' : Leftmost query text places') :
    place ∈ places → place ∈ places' := by
  induction place using Nat.strongRecOn with
  | ind p ih =>
    intro hp
    obtain ⟨q, hq, hqp, hpq⟩ := h'.covers p (h.occurs p hp)
    rcases hqp.eq_or_lt with rfl | hqp
    · exact hq
    · obtain ⟨r, hr, hrq, hqr⟩ := h.covers q (h'.occurs q hq)
      have hapart := h.le_of_lt hr hp (hrq.trans_lt hqp)
      have hr' := ih r (hrq.trans_lt hqp) hr
      rcases hrq.eq_or_lt with rfl | hrq
      · exact absurd hpq hapart.not_gt
      · exact absurd hqr (h'.le_of_lt hr' hq hrq).not_gt

/-- There is only one such list. -/
theorem unique (hquery : query ≠ "") (h : Leftmost query text places)
    (h' : Leftmost query text places') : places = places' := by
  have hpos := utf8ByteSize_pos hquery
  have hsorted {places : List Nat} (h : Leftmost query text places) : places.Pairwise (· < ·) :=
    h.apart.imp fun hle => by omega
  exact (hsorted h).eq_of_mem_iff (hsorted h') fun p => ⟨h.mem_of_mem h', h'.mem_of_mem h⟩

end Leftmost

end Folded

end Dataflow
