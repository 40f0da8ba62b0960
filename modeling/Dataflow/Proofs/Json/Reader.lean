import Dataflow.Proofs.Json.Numeral

/-!
# Json that is written and read

Reading the text of a value gives the value again, whatever characters its texts hold, if its
numbers have the form of numerals and nothing in it is broken.
-/

namespace Dataflow

namespace Json

variable {rest : List Char}

lemma hexQuad?_hexPair {code : Nat} (h : code < 0x20) :
    hexQuad? '0' '0' (Nat.digitChar (code / 16)) (Nat.digitChar (code % 16)) = some code := by
  have hall : ∀ code : Fin 0x20, hexQuad? '0' '0' (Nat.digitChar (code / 16))
      (Nat.digitChar (code % 16)) = some (code : Nat) := by
    decide
  exact hall ⟨code, h⟩

lemma readString_shortEscape? {letter c : Char} (h : shortEscape? letter = some c)
    (hu : letter ≠ 'u') (whole : Bool) (before rest : List Char) :
    readString whole before ('\x5c' :: letter :: rest) = readString whole (c :: before) rest := by
  rw [readString, h]
  intro _ _ _ _ _ heq
  exact absurd heq hu

/-- A character of a text is read back. -/
lemma readString_escapedChar (c : Char) (before rest : List Char) :
    readString true before (escapedChar c ++ rest) = readString true (c :: before) rest := by
  unfold escapedChar
  split_ifs with hquote hslash hprintable hb ht hn hf hr
  · subst hquote
    exact readString_shortEscape? rfl (by decide) true before rest
  · subst hslash
    exact readString_shortEscape? rfl (by decide) true before rest
  · have hplain : ¬(c = '\x5c' ∨ c.toNat < 0x20) := by
      rintro (h | h)
      · exact hslash h
      · omega
    rw [List.singleton_append, readString, if_neg hquote, if_neg hplain]
    · exact fun _ _ _ _ _ h _ => hslash h
    · exact fun _ _ h _ => hslash h
  · subst hb
    exact readString_shortEscape? rfl (by decide) true before rest
  · subst ht
    exact readString_shortEscape? rfl (by decide) true before rest
  · subst hn
    exact readString_shortEscape? rfl (by decide) true before rest
  · subst hf
    exact readString_shortEscape? rfl (by decide) true before rest
  · subst hr
    exact readString_shortEscape? rfl (by decide) true before rest
  · have hquad := hexQuad?_hexPair (not_le.mp hprintable)
    have hsurrogate : ¬(0xd800 ≤ c.toNat ∧ c.toNat < 0xe000) := by omega
    simp only [hexPair, List.cons_append, List.nil_append]
    rw [readString, hquad]
    simp only [if_neg hsurrogate, Char.ofNat_toNat]

lemma readString_append (cs before rest : List Char) :
    readString true before (cs.flatMap escapedChar ++ '\x22' :: rest) =
      some (some (String.ofList (before.reverse ++ cs)), rest) := by
  induction cs generalizing before with
  | nil =>
    rw [List.flatMap_nil, List.nil_append, readString] <;> simp
  | cons c cs ih =>
    rw [List.flatMap_cons, List.append_assoc, readString_escapedChar, ih]
    simp

lemma readText_stringChars (s : String) (rest : List Char) :
    readString true [] (s.toList.flatMap escapedChar ++ '\x22' :: rest) = some (some s, rest) := by
  rw [readString_append, List.reverse_nil, List.nil_append, String.ofList_toList]

/-- A value that a text can hold: its numbers have the form of numerals and are no greater than the
doubles, and nothing in it is broken. -/
inductive Proper : Json → Prop
  | null : Proper .null
  | bool (b : Bool) : Proper (.bool b)
  | number {n : Numeral} (h : n.Proper) (hsize : n.toBinary64?.isSome) : Proper (.number n)
  | string (s : String) : Proper (.string s)
  | array {items : List Json} (h : ∀ item ∈ items, Proper item) : Proper (.array items)
  | object {members : List (String × Json)} (h : ∀ member ∈ members, Proper member.2) :
    Proper (.object members)

lemma skipSpace_cons {c : Char} (h : isSpace c = false) (cs : List Char) :
    skipSpace (c :: cs) = c :: cs := by
  simp [skipSpace, h]

lemma exists_chars_eq_cons {n : Numeral} (h : n.Proper) :
    ∃ c cs, n.chars = c :: cs ∧ (c = '-' ∨ c.isDigit) := by
  obtain ⟨c, whole, hwhole⟩ := List.exists_cons_of_ne_nil h.whole_ne_nil
  rw [← List.append_nil n.chars, Numeral.chars_append, hwhole]
  cases n.negative with
  | true => exact ⟨_, _, rfl, .inl rfl⟩
  | false => exact ⟨_, _, rfl, .inr (h.whole_digits c (hwhole ▸ List.mem_cons_self))⟩

lemma ne_of_numeral {c other : Char} (hc : c = '-' ∨ c.isDigit)
    (hother : other ≠ '-' ∧ other.isDigit = false) : c ≠ other := by
  rintro rfl
  rcases hc with hc | hc
  · exact hother.1 hc
  · exact absurd hc (hother.2 ▸ Bool.false_ne_true)

lemma isSpace_eq_false {c : Char} (hc : c = '-' ∨ c.isDigit) : isSpace c = false := by
  simp [isSpace, ne_of_numeral hc (show ' ' ≠ '-' ∧ ' '.isDigit = false by decide),
    ne_of_numeral hc (show '\x09' ≠ '-' ∧ '\x09'.isDigit = false by decide),
    ne_of_numeral hc (show '\x0a' ≠ '-' ∧ '\x0a'.isDigit = false by decide),
    ne_of_numeral hc (show '\x0d' ≠ '-' ∧ '\x0d'.isDigit = false by decide)]

lemma readValue?_numeral {n : Numeral} (h : n.Proper) (hrest : Numeral.Stops rest) (fuel : Nat) :
    readValue? (fuel + 1) (n.chars ++ rest) = some (.number n, rest) := by
  have hread := h.readNumeral?_append hrest
  obtain ⟨c, cs, hchars, hc⟩ := exists_chars_eq_cons h
  rw [hchars, List.cons_append] at hread ⊢
  rw [readValue?, skipSpace_cons (isSpace_eq_false hc)]
  split
  case h_7 =>
    rw [hread]
    rfl
  -- no other value begins like a numeral
  all_goals
    next heq => exact absurd (List.cons.inj heq).1 (ne_of_numeral hc (by decide))

lemma stops_cons {c : Char} (h : c = ',' ∨ c = ']' ∨ c = '\x7d') (cs : List Char) :
    Numeral.Stops (c :: cs) := by
  rcases h with rfl | rfl | rfl <;>
    exact ⟨⟨by simp [Numeral.NoDigit], by simp⟩, by simp⟩

/-- The text of a value begins with a character that is no blank and closes no bracket. -/
lemma Proper.exists_chars_eq_cons {j : Json} (h : j.Proper) :
    ∃ c cs, j.chars = c :: cs ∧ isSpace c = false ∧ c ≠ ']' := by
  cases h with
  | null => exact ⟨_, _, rfl, rfl, by decide⟩
  | bool b => cases b <;> exact ⟨_, _, rfl, rfl, by decide⟩
  | number h _ =>
    obtain ⟨c, cs, hchars, hc⟩ := Json.exists_chars_eq_cons h
    exact ⟨c, cs, hchars, isSpace_eq_false hc, ne_of_numeral hc (by decide)⟩
  | string s => exact ⟨_, _, rfl, rfl, by decide⟩
  | array h => exact ⟨_, _, rfl, rfl, by decide⟩
  | object h => exact ⟨_, _, rfl, rfl, by decide⟩

lemma itemChars_cons (item : Json) (items : List Json) :
    ∃ tail, itemChars (item :: items) = item.chars ++ tail := by
  cases items with
  | nil => exact ⟨[], (List.append_nil _).symm⟩
  | cons next items => exact ⟨_, rfl⟩

lemma itemChars_cons_cons (item next : Json) (items : List Json) :
    itemChars (item :: next :: items) = item.chars ++ ',' :: itemChars (next :: items) := by
  rw [itemChars]
  exact List.cons_ne_nil next items

lemma memberChars_cons_cons (member next : String × Json) (members : List (String × Json)) :
    memberChars (member :: next :: members) = stringChars member.1 ++
      ':' :: (member.2.chars ++ ',' :: memberChars (next :: members)) := by
  rw [memberChars]
  exact List.cons_ne_nil next members

lemma memberChars_cons (member : String × Json) (members : List (String × Json)) :
    ∃ tail, memberChars (member :: members) = '\x22' :: tail := by
  cases members <;> exact ⟨_, rfl⟩

lemma readValue?_bracket {c : Char} (hspace : isSpace c = false) (hclose : c ≠ ']') (fuel : Nat)
    (cs : List Char) : readValue? (fuel + 1) ('[' :: c :: cs) =
      (readItems? fuel (c :: cs)).map fun (items, rest) => (.array items, rest) := by
  rw [readValue?, skipSpace_cons (by decide)]
  simp only [skipSpace_cons hspace]
  split
  · rename_i heq
    exact absurd (List.cons.inj heq).1 hclose
  · rfl

lemma readValue?_brace (fuel : Nat) (cs : List Char) :
    readValue? (fuel + 1) ('\x7b' :: '\x22' :: cs) =
      (readMembers? fuel ('\x22' :: cs)).map fun (members, rest) =>
        ((members.map .object).getD .broken, rest) := by
  rw [readValue?, skipSpace_cons (by decide)]
  simp only [skipSpace_cons (show isSpace '\x22' = false by decide)]
  rfl

mutual

/-- A value is read back, whatever stands behind it. -/
lemma readValue?_append {j : Json} (h : j.Proper) {rest : List Char} (hrest : Numeral.Stops rest)
    {fuel : Nat} (hfuel : j.chars.length ≤ fuel) :
    readValue? fuel (j.chars ++ rest) = some (j, rest) := by
  obtain ⟨fuel, rfl⟩ : ∃ k, fuel = k + 1 := by
    obtain ⟨c, cs, hchars, -⟩ := h.exists_chars_eq_cons
    rw [hchars, List.length_cons] at hfuel
    exact ⟨fuel - 1, by omega⟩
  match j with
  | .null => simp [readValue?, chars, skipSpace, isSpace]
  | .bool true => simp [readValue?, chars, skipSpace, isSpace]
  | .bool false => simp [readValue?, chars, skipSpace, isSpace]
  | .number n =>
    cases h with
    | number h _ => exact readValue?_numeral h hrest fuel
  | .string s =>
    have hread := readText_stringChars s rest
    simp [readValue?, chars, stringChars, skipSpace, isSpace, readText, hread]
  | .array [] => simp [readValue?, chars, itemChars, skipSpace, isSpace]
  | .array (item :: items) =>
    cases h with
    | array h =>
      have hlength : (itemChars (item :: items)).length < fuel := by
        simp only [chars, List.length_cons, List.length_append] at hfuel
        omega
      have hitems := readItems?_append item items h rest hlength
      obtain ⟨tail, htail⟩ := itemChars_cons item items
      obtain ⟨c, cs, hchars, hspace, hclose⟩ := (h item List.mem_cons_self).exists_chars_eq_cons
      rw [htail, hchars, List.cons_append, List.cons_append] at hitems
      rw [chars, htail, hchars]
      simp only [List.cons_append, List.append_assoc, List.nil_append] at hitems ⊢
      rw [readValue?_bracket hspace hclose, hitems]
      rfl
  | .object [] => simp [readValue?, chars, memberChars, skipSpace, isSpace]
  | .object (member :: members) =>
    cases h with
    | object h =>
      have hlength : (memberChars (member :: members)).length < fuel := by
        simp only [chars, List.length_cons, List.length_append] at hfuel
        omega
      have hmembers := readMembers?_append member members h rest hlength
      obtain ⟨tail, htail⟩ := memberChars_cons member members
      rw [htail, List.cons_append] at hmembers
      rw [chars, htail]
      simp only [List.cons_append, List.append_assoc, List.nil_append] at hmembers ⊢
      rw [readValue?_brace, hmembers]
      rfl
  | .broken => nomatch h
termination_by fuel

/-- The items of an array are read back. -/
lemma readItems?_append (item : Json) (items : List Json) (h : ∀ j ∈ item :: items, j.Proper)
    (rest : List Char) {fuel : Nat} (hfuel : (itemChars (item :: items)).length < fuel) :
    readItems? fuel (itemChars (item :: items) ++ ']' :: rest) = some (item :: items, rest) := by
  obtain ⟨hitem, hitems⟩ := List.forall_mem_cons.mp h
  obtain ⟨fuel, rfl⟩ : ∃ k, fuel = k + 1 := ⟨fuel - 1, by omega⟩
  match items with
  | [] =>
    have hread := readValue?_append hitem (stops_cons (.inr (.inl rfl)) rest)
      (Nat.lt_succ_iff.mp hfuel)
    rw [itemChars, readItems?, hread]
    simp [skipSpace_cons (show isSpace ']' = false by decide)]
  | next :: items =>
    rw [itemChars_cons_cons, List.length_append, List.length_cons] at hfuel
    have hread := readValue?_append hitem
      (stops_cons (.inl rfl) (itemChars (next :: items) ++ ']' :: rest))
      (show item.chars.length ≤ fuel by omega)
    have hnext := readItems?_append next items hitems rest
      (show (itemChars (next :: items)).length < fuel by omega)
    rw [itemChars_cons_cons, List.append_assoc, List.cons_append, readItems?, hread]
    simp [skipSpace_cons (show isSpace ',' = false by decide), hnext]
termination_by fuel

/-- The members of an object are read back. -/
lemma readMembers?_append (member : String × Json) (members : List (String × Json))
    (h : ∀ m ∈ member :: members, m.2.Proper) (rest : List Char) {fuel : Nat}
    (hfuel : (memberChars (member :: members)).length < fuel) :
    readMembers? fuel (memberChars (member :: members) ++ '\x7d' :: rest) =
      some (some (member :: members), rest) := by
  obtain ⟨key, value⟩ := member
  obtain ⟨hvalue, hmembers⟩ : value.Proper ∧ ∀ m ∈ members, m.2.Proper :=
    List.forall_mem_cons.mp h
  obtain ⟨fuel, rfl⟩ : ∃ k, fuel = k + 1 := ⟨fuel - 1, by omega⟩
  have hquote (cs : List Char) : skipSpace ('\x22' :: cs) = '\x22' :: cs :=
    skipSpace_cons (by decide) cs
  have hcolon (cs : List Char) : skipSpace (':' :: cs) = ':' :: cs := skipSpace_cons (by decide) cs
  match members with
  | [] =>
    rw [memberChars, List.length_append, List.length_cons] at hfuel
    have hread := readValue?_append hvalue (stops_cons (.inr (.inr rfl)) rest)
      (show value.chars.length ≤ fuel by omega)
    simp only [memberChars, stringChars, List.cons_append, List.append_assoc, List.nil_append]
    rw [readMembers?, hquote]
    simp only [readText_stringChars, hcolon, hread]
    simp [skipSpace_cons (show isSpace '\x7d' = false by decide)]
  | next :: members =>
    rw [memberChars_cons_cons] at hfuel
    simp only [List.length_append, List.length_cons] at hfuel
    have hread := readValue?_append hvalue
      (stops_cons (.inl rfl) (memberChars (next :: members) ++ '\x7d' :: rest))
      (show value.chars.length ≤ fuel by omega)
    have hnext := readMembers?_append next members hmembers rest
      (show (memberChars (next :: members)).length < fuel by omega)
    rw [memberChars_cons_cons]
    simp only [stringChars, List.cons_append, List.append_assoc, List.nil_append]
    rw [readMembers?, hquote]
    simp only [readText_stringChars, hcolon, hread]
    simp [skipSpace_cons (show isSpace ',' = false by decide), hnext]
termination_by fuel

end

/-- The text of a value gives the value. -/
theorem ofText?_text {j : Json} (h : j.Proper) : ofText? j.text = some j := by
  have hnil : Numeral.Stops [] := by
    simp [Numeral.Stops, Numeral.NoFraction, Numeral.NoDigit]
  have hread := readValue?_append h hnil (Nat.le_succ j.chars.length)
  rw [List.append_nil] at hread
  rw [ofText?, text, String.toList_ofList]
  simp only [hread]
  rfl

end Json

end Dataflow
