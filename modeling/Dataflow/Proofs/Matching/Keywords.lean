import Dataflow.Proofs.Matching.Slices

/-!
# What keywords find

All words of a query find the tokens that have one of them, a phrase finds the runs of tokens that
have its words in order, and a part of a text finds where it occurs first from left to right.
-/

namespace Dataflow

section EraseReps

variable {α : Type} [BEq α]

/-- The loop puts what it has kept before what it still keeps. -/
lemma eraseReps_loop (x : α) (xs before : List α) :
    List.eraseRepsBy.loop (· == ·) x xs before = before.reverse ++ (x :: xs).eraseReps := by
  have hloop (xs : List α) : ∀ x before, List.eraseRepsBy.loop (· == ·) x xs before =
      before.reverse ++ List.eraseRepsBy.loop (· == ·) x xs [] := by
    induction xs with
    | nil => simp [List.eraseRepsBy.loop]
    | cons y xs ih =>
      intro x before
      rw [List.eraseRepsBy.loop, List.eraseRepsBy.loop]
      split
      · exact ih ..
      · rw [ih _ (x :: before), ih _ [x], List.reverse_cons, List.append_assoc]
        rfl
  exact hloop ..

lemma eraseReps_cons_cons (x y : α) (xs : List α) : (x :: y :: xs).eraseReps =
    if x == y then (x :: xs).eraseReps else x :: (y :: xs).eraseReps := by
  rw [List.eraseReps, List.eraseRepsBy, List.eraseRepsBy.loop]
  split <;> rename_i h
  · rw [h]
    rfl
  · rw [h, eraseReps_loop]
    rfl

/-- A list of entries of which each is the one before or behind it ascends when entries in a row
that are the same are made one. No entry is lost. -/
lemma pairwise_eraseReps [LawfulBEq α] {r : α → α → Prop} [IsTrans α r] {xs : List α}
    (h : xs.Pairwise fun x y => x = y ∨ r x y) :
    xs.eraseReps.Pairwise r ∧ ∀ x, x ∈ xs.eraseReps ↔ x ∈ xs := by
  match xs with
  | [] => exact ⟨.nil, fun x => Iff.rfl⟩
  | [x] => exact ⟨List.pairwise_singleton .., fun x => Iff.rfl⟩
  | x :: y :: xs =>
    obtain ⟨hx, hrest⟩ := List.pairwise_cons.mp h
    obtain ⟨hxy, hxs⟩ := List.forall_mem_cons.mp hx
    rw [eraseReps_cons_cons]
    split_ifs with heq
    · obtain rfl := eq_of_beq heq
      obtain ⟨hpairwise, hmem⟩ := pairwise_eraseReps hrest
      exact ⟨hpairwise, fun z => by rw [hmem]; simp⟩
    · have hxy := hxy.resolve_left fun h => heq (beq_iff_eq.mpr h)
      obtain ⟨hpairwise, hmem⟩ := pairwise_eraseReps hrest
      refine ⟨.cons (fun z hz => ?_) hpairwise, fun z => by simp [hmem]⟩
      rcases List.mem_cons.mp ((hmem z).mp hz) with rfl | hz
      · exact hxy
      · rcases (List.pairwise_cons.mp hrest).1 z hz with rfl | hyz
        · exact hxy
        · exact IsTrans.trans _ _ _ hxy hyz

end EraseReps

/-- The span of a token. -/
def Token.toSpan (column text : String) (t : Token) : Span :=
  .ofText column text t.term t.start t.stop

namespace Finder

variable {column text query : String}

/-- The spans of tokens, sorted and each once, are those of the tokens in the order of the text. -/
lemma eraseReps_mergeSort {test : Token → Bool} {found : List Span}
    (hmem : ∀ s, s ∈ found ↔
      s ∈ ((tokens text).filter test).map (Token.toSpan column text)) :
    (found.mergeSort fun s t =>
      s.start < t.start || (s.start == t.start && s.stop ≤ t.stop)).eraseReps =
        ((tokens text).filter test).map (Token.toSpan column text) := by
  have hsorted : (found.mergeSort fun s t =>
      s.start < t.start || (s.start == t.start && s.stop ≤ t.stop)).Pairwise fun s t =>
        s = t ∨ s.start < t.start := by
    refine (List.pairwise_mergeSort ?_ ?_ found).imp_of_mem fun hs ht hle => ?_
    · simp only [Bool.or_eq_true, Bool.and_eq_true, decide_eq_true_eq, beq_iff_eq]
      omega
    · simp only [Bool.or_eq_true, Bool.and_eq_true, decide_eq_true_eq, beq_iff_eq]
      omega
    · simp only [Bool.or_eq_true, Bool.and_eq_true, decide_eq_true_eq, beq_iff_eq] at hle
      rw [List.mem_mergeSort, hmem] at hs ht
      obtain ⟨t₁, ht₁, rfl⟩ := List.mem_map.mp hs
      obtain ⟨t₂, ht₂, rfl⟩ := List.mem_map.mp ht
      refine hle.symm.imp_left fun heq => ?_
      rw [eq_of_start_eq (List.mem_of_mem_filter ht₁) (List.mem_of_mem_filter ht₂) heq.1]
  -- Both lists ascend by where spans begin, and have the same entries.
  have htrans : IsTrans Span fun s t => s.start < t.start := ⟨fun _ _ _ => Nat.lt_trans⟩
  have hirrefl : Std.Irrefl fun s t : Span => s.start < t.start := ⟨fun _ => Nat.lt_irrefl _⟩
  have hantisymm : Std.Antisymm fun s t : Span => s.start < t.start :=
    ⟨fun _ _ h h' => absurd h h'.asymm⟩
  obtain ⟨hpairwise, herase⟩ := pairwise_eraseReps hsorted
  refine hpairwise.eq_of_mem_iff ?_ fun s => by rw [herase, List.mem_mergeSort, hmem]
  rw [List.pairwise_map]
  refine ((pairwise_tokens text).filter _).imp_of_mem fun ht _ hlt => ?_
  exact (term_of_mem_tokens (List.mem_of_mem_filter ht)).1.trans hlt

lemma findTerm_eq (column text : String) (tokens : List Token) (term : String) :
    findTerm column text tokens term =
      (tokens.filter (·.term == term)).map (Token.toSpan column text) := by
  rw [findTerm, List.map_inj_left]
  intro t ht
  rw [← beq_iff_eq.mp (List.mem_filter.mp ht).2]
  rfl

lemma any_isEmpty_iff {terms : List String} :
    (terms.map (findTerm column text (tokens text))).any List.isEmpty = true ↔
      ¬ ∀ term ∈ terms, term ∈ Dataflow.terms text := by
  simp only [List.any_map, List.any_eq_true, Function.comp_apply, findTerm_eq, List.isEmpty_iff,
    List.map_eq_nil_iff, List.filter_eq_nil_iff, beq_iff_eq, Dataflow.terms, List.mem_map,
    not_forall, not_exists, not_and, exists_prop]

/-- All words of a query find the tokens that have one of them, if each is one of some token. -/
lemma findAllTerms_eq (column text : String) (terms : List String) :
    findAllTerms column text terms =
      if ∀ term ∈ terms, term ∈ Dataflow.terms text then
        ((tokens text).filter (·.term ∈ terms)).map (Token.toSpan column text)
      else [] := by
  rw [findAllTerms]
  by_cases hall : ∀ term ∈ terms, term ∈ Dataflow.terms text
  · rw [if_neg (fun h => any_isEmpty_iff.mp h hall), if_pos hall]
    refine eraseReps_mergeSort fun s => ?_
    simp only [findTerm_eq, List.mem_flatten, List.mem_map, List.mem_filter,
      exists_exists_and_eq_and, beq_iff_eq, decide_eq_true_eq]
    constructor
    · rintro ⟨term, hterm, t, ⟨ht, rfl⟩, rfl⟩
      exact ⟨t, ⟨ht, hterm⟩, rfl⟩
    · rintro ⟨t, ⟨ht, hterm⟩, rfl⟩
      exact ⟨t.term, hterm, t, ⟨ht, rfl⟩, rfl⟩
  · rw [if_pos (any_isEmpty_iff.mpr hall), if_neg hall]

/-- A phrase finds the runs of tokens that have its words. -/
lemma forall₂_findPhrase {terms : List String} (hterms : terms ≠ []) (tokens : List Token) :
    List.Forall₂ (fun i s => ∃ first last, tokens[i]? = some first ∧
        tokens[i + (terms.length - 1)]? = some last ∧
        s = .ofText column text query first.start last.stop)
      ((List.range tokens.length).filter fun i =>
        ((tokens.map Token.term).drop i).take terms.length = terms)
      (findPhrase column text query terms tokens) := by
  induction tokens with
  | nil => exact .nil
  | cons token rest ih =>
    have hrest : List.Forall₂ (fun i s => ∃ first last, (token :: rest)[i]? = some first ∧
        (token :: rest)[i + (terms.length - 1)]? = some last ∧
        s = .ofText column text query first.start last.stop)
        (((List.range rest.length).map Nat.succ).filter fun i =>
          (((token :: rest).map Token.term).drop i).take terms.length = terms)
        (findPhrase column text query terms rest) := by
      rw [List.filter_map, List.forall₂_map_left_iff]
      refine ih.imp fun i s ⟨first, last, hfirst, hlast, hs⟩ => ⟨first, last, ?_, ?_, hs⟩
      · exact hfirst
      · rwa [Nat.succ_add, List.getElem?_cons_succ]
    rw [List.length_cons, List.range_succ_eq_map, List.filter_cons, findPhrase, List.drop_zero,
      ← List.map_take]
    by_cases hmatches : ((token :: rest).take terms.length).map Token.term = terms
    · obtain ⟨last, hlast, hend⟩ := exists_phraseEnd? hterms hmatches
      rw [if_pos (decide_eq_true hmatches), hend]
      exact .cons ⟨token, last, rfl, by rwa [Nat.zero_add], rfl⟩ hrest
    · rwa [if_neg (by rwa [decide_eq_true_eq]), phraseEnd?_eq, if_neg hmatches]

/-- More attributes leave in place what was found in the attributes before. -/
lemma findIn_append {finder : Finder} {t : Tuple} {columns : List String} {spans : List Span}
    (h : finder.findIn t columns = .ok spans) (more : List String) :
    finder.findIn t (columns ++ more) = (finder.findIn t more).map (spans ++ ·) := by
  obtain ⟨found, hfound, hspans⟩ := seq_eq_ok_iff.mp h
  cases hspans
  simp only [findIn, List.mapM_append, hfound]
  generalize List.mapM (m := Result) _ more = rest
  cases rest with
  | error e => rfl
  | ok more =>
    change Except.ok (found ++ more).flatten = Except.ok (found.flatten ++ more.flatten)
    rw [List.flatten_append]

/-- What a query with words finds in a text. Where all its words are looked for, the tokens with
one of them are found, each once and in order, if each word occurs, and else nothing. A phrase finds
the runs of as many tokens as it has words that have its words in order. A part of a text finds
where it occurs regardless of case and without overlap, in the only way that leaves out no further
occurrence; as many rounds as there are bytes and one more are enough for that. What was found
before, in this attribute or another one, stays. -/
theorem find_keywords (hquery : terms query ≠ []) (column text : String) :
    (find column text (.keywords query .conjunction) =
        (if ∀ term ∈ terms query, term ∈ terms text then
          ((tokens text).filter (·.term ∈ terms query)).map (Token.toSpan column text)
        else []) ∧
      (find column text (.keywords query .conjunction)).Pairwise fun s t => s.stop < t.start) ∧
    (∃ places, places.Pairwise (· < ·) ∧
      (∀ i, i ∈ places ↔ ((terms text).drop i).take (terms query).length = terms query) ∧
      List.Forall₂ (fun i s => ∃ first last, (tokens text)[i]? = some first ∧
          (tokens text)[i + ((terms query).length - 1)]? = some last ∧
          s = .ofText column text query first.start last.stop)
        places (find column text (.keywords query .phrase))) ∧
    (∃ places, (∀ others, Leftmost query text others ↔ others = places) ∧
      find column text (.keywords query .substring) = places.map fun place =>
        .ofText column text query place (place + query.utf8ByteSize)) ∧
    (∀ rounds found, text.utf8ByteSize < rounds →
      sliceSubstring? column text query rounds 0 found =
        some (found ++ find column text (.keywords query .substring))) ∧
    ∀ matching, (∀ found, findInto? column text found (.keywords query matching) =
        some (found ++ find column text (.keywords query matching))) ∧
      ∀ t columns spans more, findIn (.keywords query matching) t columns = .ok spans →
        findIn (.keywords query matching) t (columns ++ more) =
          (findIn (.keywords query matching) t more).map (spans ++ ·) := by
  have hne := ne_empty_of_terms hquery
  refine ⟨⟨findAllTerms_eq .., ?_⟩, ⟨_, List.pairwise_lt_range.filter _, fun i => ?_,
    forall₂_findPhrase hquery (tokens text)⟩, ?_, fun rounds found hrounds =>
    sliceSubstring?_zero hne column hrounds found, fun matching => ⟨findInto?_eq ?_ column text,
    fun t columns spans more h => findIn_append h more⟩⟩
  · rw [find, findAllTerms_eq]
    split_ifs
    · exact List.pairwise_map.mpr ((pairwise_tokens text).filter _)
    · exact .nil
  · rw [List.mem_filter, List.mem_range, decide_eq_true_eq, ← Dataflow.terms, and_iff_right_iff_imp]
    -- Behind the last token no word is left.
    intro h
    by_contra hle
    rw [List.drop_eq_nil_of_le (by rwa [Dataflow.terms, List.length_map, ← not_lt]),
      List.take_nil] at h
    exact hquery h.symm
  · obtain ⟨places, hsearches, hplaces⟩ := exists_searches_findSubstring hne column text
    have hleftmost := hsearches.leftmost hne
    exact ⟨places, fun others => ⟨fun h => h.unique hne hleftmost, fun h => h ▸ hleftmost⟩, hplaces⟩
  · exact hquery

/-- What is left of a word when its occurrences overlap: only the first one is found. -/
theorem find_ana : terms "ana" ≠ [] ∧ (∀ others, Leftmost "ana" "bANANA" others ↔ others = [1]) ∧
    find "text" "bANANA" (.keywords "ana" .substring) = [⟨"text", 1, 4, "ana", "ANA"⟩] := by
  have hquery : terms "ana" ≠ [] := by decide +kernel
  have hfind : find "text" "bANANA" (.keywords "ana" .substring) =
      [⟨"text", 1, 4, "ana", "ANA"⟩] := by
    decide +kernel
  obtain ⟨-, -, ⟨places, hplaces, hspans⟩, -⟩ := find_keywords hquery "text" "bANANA"
  have hone : places = [1] := by
    have hstarts := congrArg (List.map Span.start) (hspans.symm.trans hfind)
    simpa [Span.ofText] using hstarts
  exact ⟨hquery, hone ▸ hplaces, hfind⟩

end Finder

end Dataflow
