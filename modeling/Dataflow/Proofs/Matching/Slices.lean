import Dataflow.Matching.Finder
import Dataflow.Proofs.Lists
import Dataflow.Proofs.Text.Search
import Dataflow.Proofs.Text.Tokens

/-!
# Finding matches by slices

A finder that walks along a text byte by byte, takes every part of it by a slice that may be bad,
and adds what it finds to what was found before. It gives nothing if a slice is bad or a loop does
not come to its end. It always gives something: what was found before, and then the matches.
-/

namespace Dataflow

/-- The span between two places of a text. -/
def Span.ofSlice? (column text key : String) (start stop : Nat) : Option Span := do
  return ⟨column, start, stop, key, ← slice? text start stop⟩

/-- The token between two places of a text. -/
def Token.ofSlice? (text : String) (start stop : Nat) : Option Token := do
  return ⟨start, stop, lowercase (← slice? text start stop)⟩

/-- The tokens of the characters from an offset on; a token that has begun before is given by its
start. -/
def sliceTokensFrom? (text : String) (start : Option Nat) (offset : Nat) :
    List Char → Option (List Token)
  | [] =>
    match start with
    | some start => do return [← Token.ofSlice? text start offset]
    | none => some []
  | c :: cs =>
    let next := offset + c.utf8Size
    match isAlphanumeric c, start with
    | true, none => sliceTokensFrom? text (some offset) next cs
    | false, some start => do
      let token ← Token.ofSlice? text start offset
      return token :: (← sliceTokensFrom? text none next cs)
    | _, start => sliceTokensFrom? text start next cs

/-- The tokens of a text. -/
def sliceTokens? (text : String) : Option (List Token) :=
  sliceTokensFrom? text none 0 text.toList

/-- The runs of consecutive entries of a length, which is not zero. -/
def windows? {α : Type} (length : Nat) (xs : List α) : Option (List (List α)) :=
  if length = 0 then none
  else some ((xs.tails.map (List.take length)).filter (·.length = length))

/-- The span from the first of a number of tokens to the last. -/
def Span.ofWindow? (column text key : String) (length : Nat) (window : List Token) :
    Option Span := do
  Span.ofSlice? column text key (← window[0]?).start (← window[length - 1]?).stop

/-- The first place of a word in characters that begin at an offset. -/
def firstPlace? (word : List Char) (offset : Nat) : List Char → Option Nat
  | [] => if word.isEmpty then some offset else none
  | c :: cs =>
    if word.isPrefixOf (c :: cs) then some offset
    else firstPlace? word (offset + c.utf8Size) cs

/-- The first place of a text from a byte on. -/
def placeFrom? (text : String) (byte : Nat) : Option Nat :=
  (List.range' byte (text.utf8ByteSize + 1 - byte)).find? fun place =>
    (⟨place⟩ : String.Pos.Raw).IsValid text

namespace Finder

/-- Adds the tokens with one of several terms, one term after the other. A term that does not occur
ends the search, and nothing is found. -/
def sliceTermsInto? (column text : String) (tokens : List Token) :
    List String → List Span → Option (List Span)
  | [], found => some ((found.mergeSort fun s t =>
      s.start < t.start || (s.start == t.start && s.stop ≤ t.stop)).eraseReps)
  | term :: terms, found => do
    let more ← (tokens.filter (·.term == term)).mapM fun token =>
      Span.ofSlice? column text term token.start token.stop
    if more.isEmpty then return []
    sliceTermsInto? column text tokens terms (found ++ more)

/-- The windows of tokens that have the given terms in order. -/
def slicePhrase? (column text query : String) (terms : List String) (tokens : List Token) :
    Option (List Span) := do
  let windows ← windows? terms.length tokens
  let found := windows.filter fun window =>
    (window.zip terms).all fun (token, term) => token.term == term
  found.mapM (Span.ofWindow? column text query terms.length)

/-- Adds the occurrences of a query from a byte on, in a number of rounds at most. A round looks for
the query in what is left of the text and goes on behind it, at the next place of the text. -/
def sliceSubstring? (column text query : String) : Nat → Nat → List Span → Option (List Span)
  | 0, _, _ => none
  | rounds + 1, byte, found => do
    let left ← slice? text.toLower byte text.toLower.utf8ByteSize
    match firstPlace? query.toLower.toList byte left.toList with
    | none => return found
    | some start =>
      let span ← Span.ofSlice? column text query start (start + query.toLower.utf8ByteSize)
      let next ← placeFrom? text.toLower (start + max query.toLower.utf8ByteSize 1)
      sliceSubstring? column text query rounds next (found ++ [span])

/-- The occurrences of a query's words, if the share of them that occurs reaches the threshold. -/
def sliceShare? (column text : String) (terms : List String) (threshold : Binary64)
    (tokens : List Token) : Option (List Span) := do
  let hits := tokens.filter fun token => terms.contains token.term
  let present := terms.filter fun term => hits.any (·.term == term)
  let share := (Binary64.ofNat present.length).div (.ofNat terms.length)
  if present.isEmpty || share.lt threshold then return []
  hits.mapM fun token => Span.ofSlice? column text token.term token.start token.stop

/-- Adds the matches in the text of an attribute to what was found before. -/
def findInto? (column text : String) (found : List Span) : Finder → Option (List Span)
  | keywords query .conjunction => do
    return found ++ (← sliceTermsInto? column text (← sliceTokens? text) (terms query) [])
  | keywords query .phrase => do
    return found ++ (← slicePhrase? column text query (terms query) (← sliceTokens? text))
  | keywords query .substring =>
    sliceSubstring? column text query (text.utf8ByteSize + 1) 0 found
  | pattern key search => do
    let spans ← (search text).mapM fun (start, stop) => Span.ofSlice? column text key start stop
    return found ++ spans.filter fun span => !span.value.isEmpty
  | fuzzy terms threshold => do
    return found ++ (← sliceShare? column text terms threshold (← sliceTokens? text))

end Finder

/-- Every match is a part of the text, which may be empty. -/
def Search.InBounds (search : Search) : Prop :=
  ∀ text, ∀ m ∈ search text, ∃ part, slice? text m.1 m.2 = some part

/-- An engine that reports matches only between places of the text. -/
def PatternEngine.InBounds (engine : PatternEngine) : Prop :=
  ∀ pattern search, engine.compile pattern = .ok search → Search.InBounds search

/-- A finder takes no bad slice if it looks for words that there are, or for what a search finds
in bounds. -/
def Finder.IsSound : Finder → Prop
  | .keywords query _ => terms query ≠ []
  | .pattern _ search => Search.InBounds search
  | .fuzzy .. => True

variable {column text key query : String} {start stop : Nat}

lemma Span.ofSlice?_eq {part : String} (h : slice? text start stop = some part) :
    Span.ofSlice? column text key start stop = some (.ofText column text key start stop) := by
  rw [ofSlice?, h, ofText, textBetween_eq h]
  rfl

lemma mapM_ofSlice? {α : Type} {xs : List α} (key : α → String) {start stop : α → Nat}
    (h : ∀ x ∈ xs, ∃ part, slice? text (start x) (stop x) = some part) :
    (xs.mapM fun x => Span.ofSlice? column text (key x) (start x) (stop x)) =
      some (xs.map fun x => .ofText column text (key x) (start x) (stop x)) := by
  rw [mapM_eq_some_iff, List.forall₂_map_right_iff, List.forall₂_same]
  intro x hx
  obtain ⟨part, hpart⟩ := h x hx
  exact Span.ofSlice?_eq hpart

lemma Token.ofSlice?_eq {before run after : List Char}
    (htext : text.toList = before ++ run.reverse ++ after) (hstart : byteLength before = start)
    (hstop : start + byteLength run.reverse = stop) :
    Token.ofSlice? text start stop = some (.ofRun start stop run) := by
  subst hstart hstop
  rw [ofSlice?, slice?_eq_of_toList htext]
  rfl

/-- The scanner takes good slices: it knows where the token that has begun begins. -/
lemma sliceTokensFrom?_eq (before run : List Char) {cs : List Char} {offset : Nat}
    (htext : text.toList = before ++ run.reverse ++ cs) (hstart : byteLength before = start)
    (hoffset : start + byteLength run.reverse = offset) :
    sliceTokensFrom? text (if run.isEmpty then none else some start) offset cs =
      some (tokensFrom start run offset cs) := by
  induction cs generalizing before run start offset with
  | nil =>
    cases run with
    | nil => rfl
    | cons d run =>
      have htoken := Token.ofSlice?_eq htext hstart hoffset
      simp [sliceTokensFrom?, tokensFrom, htoken]
  | cons c cs ih =>
    cases halphanumeric : isAlphanumeric c with
    | true =>
      have hrun : sliceTokensFrom? text (some start) (offset + c.utf8Size) cs =
          some (tokensFrom start (c :: run) (offset + c.utf8Size) cs) :=
        ih before (c :: run) (by simp [htext]) hstart (by simp [← hoffset, Nat.add_assoc])
      cases run with
      | nil =>
        obtain rfl : start = offset := hoffset
        simpa [sliceTokensFrom?, tokensFrom, halphanumeric] using hrun
      | cons d run => simpa [sliceTokensFrom?, tokensFrom, halphanumeric] using hrun
    | false =>
      have hgap : sliceTokensFrom? text none (offset + c.utf8Size) cs =
          some (tokensFrom (offset + c.utf8Size) [] (offset + c.utf8Size) cs) :=
        ih (before ++ run.reverse ++ [c]) [] (by simp [htext])
          (by simp [← hoffset, hstart, Nat.add_assoc]) rfl
      cases run with
      | nil => simpa [sliceTokensFrom?, tokensFrom, halphanumeric] using hgap
      | cons d run =>
        have htoken := Token.ofSlice?_eq htext hstart hoffset
        simp [sliceTokensFrom?, tokensFrom, halphanumeric, htoken, hgap]

lemma sliceTokens?_eq (text : String) : sliceTokens? text = some (tokens text) :=
  sliceTokensFrom?_eq [] [] rfl rfl rfl

namespace Finder

/-- What is found of terms one after the other is what is found of each, unless one is missing. -/
lemma sliceTermsInto?_eq {tokens : List Token}
    (htokens : ∀ t ∈ tokens, t.start < t.stop ∧ ∃ part, slice? text t.start t.stop = some part)
    (terms : List String) (found : List Span) :
    sliceTermsInto? column text tokens terms found =
      some (if (terms.map (findTerm column text tokens)).any List.isEmpty then []
        else ((found ++ (terms.map (findTerm column text tokens)).flatten).mergeSort fun s t =>
          s.start < t.start || (s.start == t.start && s.stop ≤ t.stop)).eraseReps) := by
  induction terms generalizing found with
  | nil => simp [sliceTermsInto?]
  | cons term terms ih =>
    have hterm : ((tokens.filter (·.term == term)).mapM fun token =>
        Span.ofSlice? column text term token.start token.stop) =
          some (findTerm column text tokens term) :=
      mapM_ofSlice? _ fun t ht => (htokens t (List.mem_of_mem_filter ht)).2
    rw [sliceTermsInto?, hterm, Option.bind_eq_bind, Option.bind_some]
    cases hempty : (findTerm column text tokens term).isEmpty with
    | true => simp [hempty]
    | false => simp [hempty, ih]

/-- A run of tokens has the terms if the first tokens do, and ends with the last of these. -/
lemma phraseEnd?_eq (terms : List String) (last : Token) (tokens : List Token) :
    phraseEnd? terms last tokens = if (tokens.take terms.length).map Token.term = terms
      then (last :: tokens.take terms.length).getLast? else none := by
  induction terms generalizing last tokens with
  | nil => simp [phraseEnd?]
  | cons term terms ih =>
    cases tokens with
    | nil => simp [phraseEnd?]
    | cons token tokens =>
      rw [phraseEnd?, ih]
      by_cases hterm : token.term = term
      · simp [hterm]
      · simp [hterm]

/-- A run of tokens that has terms ends as many tokens later as there are terms. -/
lemma exists_phraseEnd? {terms : List String} (hterms : terms ≠ []) {token : Token}
    {rest : List Token} (h : ((token :: rest).take terms.length).map Token.term = terms) :
    ∃ last, (token :: rest)[terms.length - 1]? = some last ∧
      phraseEnd? terms token (token :: rest) = some last := by
  have hpos : 0 < terms.length := List.length_pos_iff.mpr hterms
  have hlength : ((token :: rest).take terms.length).length = terms.length := by
    rw [← List.length_map Token.term, h]
  obtain ⟨last, hlast⟩ : ∃ last, ((token :: rest).take terms.length)[terms.length - 1]? =
      some last := ⟨_, List.getElem?_eq_getElem (by omega)⟩
  refine ⟨last, ?_, ?_⟩
  · rwa [List.getElem?_take_of_lt (by omega)] at hlast
  · rw [phraseEnd?_eq, if_pos h, List.getLast?_cons, List.getLast?_eq_getElem?, hlength, hlast]
    rfl

lemma map_term_eq_iff {terms : List String} {window : List Token} :
    window.map Token.term = terms ↔ window.length = terms.length ∧
      (window.zip terms).all (fun (token, term) => token.term == term) = true := by
  induction window generalizing terms with
  | nil => cases terms <;> simp
  | cons token window ih =>
    cases terms with
    | nil => simp
    | cons term terms => simp [ih, and_left_comm]

/-- The windows that are taken are those that have the terms. -/
lemma slicePhrase?_eq_mapM {terms : List String} (hterms : terms ≠ []) (tokens : List Token) :
    slicePhrase? column text query terms tokens =
      ((tokens.tails.map (List.take terms.length)).filter fun window =>
        window.map Token.term = terms).mapM (Span.ofWindow? column text query terms.length) := by
  have hfilter (windows : List (List Token)) :
      (windows.filter (·.length = terms.length)).filter
        (fun window => (window.zip terms).all fun (token, term) => token.term == term) =
      windows.filter fun window => window.map Token.term = terms := by
    rw [List.filter_filter]
    refine List.filter_congr fun window _ => ?_
    rw [Bool.eq_iff_iff]
    simp only [Bool.and_eq_true, decide_eq_true_eq, map_term_eq_iff, and_comm]
  rw [slicePhrase?, windows?, if_neg (mt List.length_eq_zero_iff.mp hterms), Option.bind_eq_bind,
    Option.bind_some, hfilter]

/-- The windows with the terms of a phrase are the runs of tokens that have them. -/
lemma slicePhrase?_eq {terms : List String} (hterms : terms ≠ []) {tokens : List Token}
    (htokens : ∀ t ∈ tokens, t.start < t.stop ∧ ∃ part, slice? text t.start t.stop = some part)
    (happart : tokens.Pairwise fun t u => t.stop < u.start) :
    slicePhrase? column text query terms tokens =
      some (findPhrase column text query terms tokens) := by
  have hpos : 0 < terms.length := List.length_pos_iff.mpr hterms
  rw [slicePhrase?_eq_mapM hterms]
  induction tokens with
  | nil => simp [hterms.symm, findPhrase]
  | cons token rest ih =>
    have ih := ih (List.forall_mem_cons.mp htokens).2 happart.of_cons
    rw [List.tails_cons, List.map_cons, List.filter_cons, findPhrase]
    by_cases hmatches : ((token :: rest).take terms.length).map Token.term = terms
    · obtain ⟨last, hlast, hend⟩ := exists_phraseEnd? hterms hmatches
      obtain ⟨-, part, hpart⟩ := exists_slice?_run htokens happart (Nat.zero_le _) rfl hlast
      have hspan : Span.ofWindow? column text query terms.length
          ((token :: rest).take terms.length) =
            some (.ofText column text query token.start last.stop) := by
        rw [Span.ofWindow?, List.getElem?_take_of_lt hpos, List.getElem?_take_of_lt (by omega),
          hlast]
        exact Span.ofSlice?_eq hpart
      rw [if_pos (decide_eq_true hmatches), List.mapM_cons, ih, hend, hspan]
      rfl
    · rw [if_neg (by rwa [decide_eq_true_eq]), phraseEnd?_eq, if_neg hmatches, ih]

end Finder

namespace Searches

variable {word cs : List Char} {offset place : Nat} {places : List Nat}

/-- The first place that a search finds is the first place of the word. -/
lemma firstPlace?_eq_head? (hword : word ≠ []) (h : Searches word offset cs places) :
    firstPlace? word offset cs = places.head? := by
  induction h with
  | finish => rw [firstPlace?, if_neg (by simpa using hword), List.head?_nil]
  | skip hbegins hrest ih =>
    rwa [firstPlace?, if_neg (mt List.isPrefixOf_iff_prefix.mp hbegins)]
  | @hit offset after places hrest ih =>
    obtain ⟨c, more, rfl⟩ := List.exists_cons_of_ne_nil hword
    have hbegins : c :: more <+: c :: (more ++ after) := List.prefix_append (c :: more) after
    rw [List.cons_append, firstPlace?, if_pos (List.isPrefixOf_iff_prefix.mpr hbegins),
      List.head?_cons]

lemma exists_after (h : Searches word offset cs (place :: places)) : ∃ before after,
    cs = before ++ word ++ after ∧ offset + byteLength before = place ∧
      Searches word (place + byteLength word) after places := by
  generalize hlist : place :: places = list at h
  induction h with
  | finish => cases hlist
  | @skip offset c cs list hbegins hrest ih =>
    obtain ⟨before, after, rfl, hplace, hafter⟩ := ih hlist
    rw [Nat.add_assoc, ← byteLength_cons] at hplace
    exact ⟨c :: before, after, rfl, hplace, hafter⟩
  | @hit offset after list hrest ih =>
    obtain ⟨rfl, rfl⟩ := List.cons.inj hlist
    exact ⟨[], after, rfl, rfl, hrest⟩

end Searches

lemma placeFrom?_eq (h : (⟨start⟩ : String.Pos.Raw).IsValid text) :
    placeFrom? text start = some start := by
  obtain ⟨n, hn⟩ : ∃ n, text.utf8ByteSize + 1 - start = n + 1 :=
    ⟨text.utf8ByteSize - start, by have := le_utf8ByteSize h; omega⟩
  rw [placeFrom?, hn, List.range'_succ, List.find?_cons_of_pos (by simpa using h)]

namespace Finder

section Rounds

variable {done cs : List Char}

lemma sliceSubstring?_last (htext : text.toLower.toList = done ++ cs)
    (hfirst : firstPlace? query.toLower.toList (byteLength done) cs = none) (rounds : Nat)
    (found : List Span) :
    sliceSubstring? column text query (rounds + 1) (byteLength done) found = some found := by
  rw [sliceSubstring?, slice?_eq_left htext, Option.bind_eq_bind, Option.bind_some,
    String.toList_ofList, hfirst]
  rfl

lemma sliceSubstring?_more (htext : text.toLower.toList = done ++ cs)
    (hfirst : firstPlace? query.toLower.toList (byteLength done) cs = some start) {part : String}
    (hpart : slice? text start (start + query.utf8ByteSize) = some part)
    (hpos : 0 < query.utf8ByteSize)
    (hnext : (⟨start + query.utf8ByteSize⟩ : String.Pos.Raw).IsValid text.toLower) (rounds : Nat)
    (found : List Span) :
    sliceSubstring? column text query (rounds + 1) (byteLength done) found =
      sliceSubstring? column text query rounds (start + query.utf8ByteSize)
        (found ++ [.ofText column text query start (start + query.utf8ByteSize)]) := by
  rw [sliceSubstring?, slice?_eq_left htext, Option.bind_eq_bind, Option.bind_some,
    String.toList_ofList, hfirst, utf8ByteSize_toLower, max_eq_left hpos]
  dsimp only
  rw [Span.ofSlice?_eq hpart, Option.bind_eq_bind, Option.bind_some, placeFrom?_eq hnext,
    Option.bind_eq_bind, Option.bind_some]

/-- As many rounds as there are bytes left, and one more, find all that a search finds. -/
lemma sliceSubstring?_eq (hquery : query ≠ "") (done cs : List Char) {places : List Nat}
    {rounds : Nat} (found : List Span) (htext : text.toLower.toList = done ++ cs)
    (h : Searches query.toLower.toList (byteLength done) cs places)
    (hrounds : byteLength cs < rounds) :
    sliceSubstring? column text query rounds (byteLength done) found =
      some (found ++ places.map fun place =>
        .ofText column text query place (place + query.utf8ByteSize)) := by
  have hword := toList_toLower_ne_nil hquery
  have hsize := byteLength_toList_toLower query
  have hpos := utf8ByteSize_pos hquery
  induction places generalizing done cs rounds found with
  | nil =>
    obtain ⟨rounds, rfl⟩ := Nat.exists_eq_succ_of_ne_zero (Nat.ne_zero_of_lt hrounds)
    rw [sliceSubstring?_last htext (h.firstPlace?_eq_head? hword), List.map_nil, List.append_nil]
  | cons place places ih =>
    obtain ⟨rounds, rfl⟩ := Nat.exists_eq_succ_of_ne_zero (Nat.ne_zero_of_lt hrounds)
    obtain ⟨part, hpart, -⟩ : Occurs query text place := by
      refine occurs_iff.mpr (htext ▸ OccursAt.append ?_)
      rw [Nat.zero_add]
      exact h.occursAt place List.mem_cons_self
    have hfirst := h.firstPlace?_eq_head? hword
    obtain ⟨before, after, rfl, rfl, hafter⟩ := h.exists_after
    rw [hsize] at hafter
    have hdone : text.toLower.toList = done ++ before ++ query.toLower.toList ++ after := by
      simp [htext]
    have hplace : byteLength (done ++ before ++ query.toLower.toList) =
        byteLength done + byteLength before + query.utf8ByteSize := by
      rw [byteLength_append, byteLength_append, hsize]
    have hlt : byteLength after < rounds := by
      rw [byteLength_append, byteLength_append] at hrounds
      omega
    rw [sliceSubstring?_more htext hfirst hpart hpos (isValid_iff.mpr ⟨_, after, hdone, hplace⟩),
      ← hplace, ih _ after _ hdone (by rwa [hplace]) hlt, hplace, List.append_assoc,
      List.singleton_append, List.map_cons]

end Rounds

lemma sliceShare?_eq (terms : List String) (threshold : Binary64) :
    sliceShare? column text terms threshold (tokens text) =
      some (findShare column text terms threshold) := by
  have hhits : (((tokens text).filter fun token => terms.contains token.term).mapM fun token =>
      Span.ofSlice? column text token.term token.start token.stop) =
        some (((tokens text).filter fun token => terms.contains token.term).map fun token =>
          .ofText column text token.term token.start token.stop) :=
    mapM_ofSlice? _ fun t ht => (exists_slice?_of_mem_tokens (List.mem_of_mem_filter ht)).2
  rw [sliceShare?, findShare]
  split_ifs
  · rfl
  · exact hhits

/-- What is found of a query that is not empty is where it occurs first, from left to right. -/
lemma exists_searches_findSubstring (hquery : query ≠ "") (column text : String) : ∃ places,
    Searches query.toLower.toList 0 text.toLower.toList places ∧
      findSubstring column text query = places.map fun place =>
        .ofText column text query place (place + query.utf8ByteSize) := by
  obtain ⟨places, hsearches, hplaces⟩ :=
    exists_searches_occurrences (toList_toLower_ne_nil hquery) text.toLower.toList
  refine ⟨places, hsearches, ?_⟩
  rw [toList_toLower, toList_toLower] at hplaces
  rw [findSubstring, hplaces, List.map_map, byteLength_map_toLower, ← utf8ByteSize_eq]
  rfl

lemma sliceSubstring?_zero (hquery : query ≠ "") (column : String) {text : String} {rounds : Nat}
    (hrounds : text.utf8ByteSize < rounds) (found : List Span) :
    sliceSubstring? column text query rounds 0 found =
      some (found ++ findSubstring column text query) := by
  obtain ⟨places, hsearches, hplaces⟩ := exists_searches_findSubstring hquery column text
  rw [hplaces]
  refine sliceSubstring?_eq hquery [] text.toLower.toList found rfl hsearches ?_
  rwa [byteLength_toList_toLower]

lemma ne_empty_of_terms (h : terms query ≠ []) : query ≠ "" := by
  rintro rfl
  exact h rfl

/-- A sound finder never takes a bad slice and always comes to its end. It keeps what was found
before and adds the matches. -/
theorem findInto?_eq {finder : Finder} (h : finder.IsSound) (column text : String)
    (found : List Span) :
    finder.findInto? column text found = some (found ++ finder.find column text) := by
  have htokens : ∀ t ∈ tokens text, t.start < t.stop ∧
      ∃ part, slice? text t.start t.stop = some part := fun t => exists_slice?_of_mem_tokens
  match finder with
  | .keywords query .conjunction =>
    rw [findInto?, sliceTokens?_eq, Option.bind_eq_bind, Option.bind_some,
      sliceTermsInto?_eq htokens]
    rfl
  | .keywords query .phrase =>
    rw [findInto?, sliceTokens?_eq, Option.bind_eq_bind, Option.bind_some,
      slicePhrase?_eq h htokens (pairwise_tokens text)]
    rfl
  | .keywords query .substring =>
    exact sliceSubstring?_zero (ne_empty_of_terms h) column (Nat.lt_succ_self _) found
  | .pattern key search =>
    rw [findInto?, mapM_ofSlice? (fun _ => key) fun m hm => h text m hm]
    rfl
  | .fuzzy terms threshold =>
    rw [findInto?, sliceTokens?_eq, Option.bind_eq_bind, Option.bind_some, sliceShare?_eq]
    rfl

end Finder

end Dataflow
