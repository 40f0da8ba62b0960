import Dataflow.Proofs.Binary64.Quotients
import Dataflow.Proofs.Executor.Crews
import Dataflow.Proofs.Matching.Keywords

/-!
# Shares of words

A share of one asks for all words of a query. So a finder of shares that has this threshold finds
what a finder of all words does, though one counts the words that occur and divides, and the other
one looks for each word on its own, sorts what it has found and makes repetitions one.
-/

namespace Dataflow

namespace Finder

variable {column text query : String} {words : List String}

/-- The words that occur in a text are the terms of tokens that have one of the words. -/
lemma filter_any_hits (text : String) (words : List String) :
    (words.filter fun word =>
      ((tokens text).filter fun token => words.contains token.term).any (·.term == word)) =
        words.filter (· ∈ terms text) := by
  refine List.filter_congr fun word hword => Bool.eq_iff_iff.mpr ?_
  simp only [List.any_eq_true, List.mem_filter, List.contains_iff_mem, beq_iff_eq,
    decide_eq_true_eq, terms, List.mem_map]
  constructor
  · rintro ⟨t, ⟨ht, -⟩, rfl⟩
    exact ⟨t, ht, rfl⟩
  · rintro ⟨t, ht, rfl⟩
    exact ⟨t, ⟨ht, hword⟩, rfl⟩

lemma lt_one_share_iff (hne : words ≠ []) (hfew : words.length < 2 ^ 53) (text : String) :
    ((Binary64.ofNat (words.filter (· ∈ terms text)).length).div (.ofNat words.length)).lt
      (.ofNat 1) = true ↔ ¬ ∀ word ∈ words, word ∈ terms text := by
  rw [Binary64.lt_one_div_ofNat (List.length_filter_le ..) (List.length_pos_iff.mpr hne) hfew,
    decide_eq_true_eq, List.length_filter_lt_length_iff_exists]
  simp only [decide_eq_true_eq, not_forall, exists_prop]

lemma findShare_one (hne : words ≠ []) (hfew : words.length < 2 ^ 53) (column text : String) :
    findShare column text words (.ofNat 1) = findAllTerms column text words := by
  rw [findAllTerms_eq, findShare, filter_any_hits]
  by_cases hall : ∀ word ∈ words, word ∈ terms text
  · have hpresent : (words.filter (· ∈ terms text)).isEmpty = false := by
      rw [List.filter_eq_self.mpr fun word hword => decide_eq_true (hall word hword)]
      exact List.isEmpty_eq_false_iff.mpr hne
    have hshare := (lt_one_share_iff hne hfew text).not_left.mpr hall
    rw [hpresent, Bool.eq_false_of_not_eq_true hshare, if_neg (by simp), if_pos hall]
    simp only [List.contains_eq_mem]
    rfl
  · rw [(lt_one_share_iff hne hfew text).mpr hall, Bool.or_true, if_pos rfl, if_neg hall]

lemma findAllTerms_eraseDups (column text : String) (words : List String) :
    findAllTerms column text words.eraseDups = findAllTerms column text words := by
  simp only [findAllTerms_eq, List.mem_eraseDups]

/-- A finder of all words and one of a share of one find the same in every text. -/
lemma find_share_one (hquery : terms query ≠ []) (hfew : (terms query).eraseDups.length < 2 ^ 53)
    (column text : String) : find column text (.fuzzy (terms query).eraseDups (.ofNat 1)) =
      find column text (.keywords query .conjunction) := by
  have hne : (terms query).eraseDups ≠ [] := by
    obtain ⟨word, hword⟩ := List.exists_mem_of_ne_nil _ hquery
    exact List.ne_nil_of_mem (List.mem_eraseDups.mpr hword)
  exact (findShare_one hne hfew column text).trans (findAllTerms_eraseDups ..)

lemma ofShare_one (id : OperatorId) (query : String) : ofShare id query (.ofNat 1) =
    if (terms query).isEmpty then .error (.config (.emptyFuzzyQuery id))
    else .ok (.fuzzy (terms query).eraseDups (.ofNat 1)) := by
  have hbounds :
      ((Binary64.zero false).lt (.ofNat 1) && (Binary64.ofNat 1).le (.ofNat 1)) = true := by
    decide +kernel
  rw [ofShare, hbounds]
  exact if_neg Bool.false_ne_true

end Finder

namespace StandardFactory

variable {r r' : Request} {query result result' : String} {columns columns' : List String}

/-- A matcher of a share of words whose threshold is one does what a matcher of all words of the
query does. Both are refused if the query has no words, and only then. What they add to the spans
found before, in whatever text, is the same list of spans, and they make the same of every tuple
where they look in the same attributes. The words of the query, each counted once, are fewer than
`2 ^ 53`, so that their number is a double. -/
theorem full_share_finds_all_words
    (hshare : r.operator.kind = .fuzzyMatcher query columns (.ofNat 1) result)
    (hall : r'.operator.kind = .keywordMatcher query columns' .conjunction result')
    (hfew : (terms query).eraseDups.length < 2 ^ 53) :
    if terms query = [] then
      fuzzyMatcher r = .error (.config (.emptyFuzzyQuery r.operator.id)) ∧
        keywordMatcher r' = .error (.config (.emptyKeywords r'.operator.id))
    else ∃ share all : Finder,
      fuzzyMatcher r = .ok (.worker (.matcher ⟨share, columns, r.output⟩)) ∧
        keywordMatcher r' = .ok (.worker (.matcher ⟨all, columns', r'.output⟩)) ∧
        (∀ column text found, ∃ spans, share.findInto? column text found = some (found ++ spans) ∧
          all.findInto? column text found = some (found ++ spans)) ∧
        (∀ column text, share.find column text = all.find column text) ∧
        ∀ columns output t, Matcher.apply ⟨share, columns, output⟩ t =
          Matcher.apply ⟨all, columns, output⟩ t := by
  simp only [fuzzyMatcher, keywordMatcher, hshare, hall, Finder.ofShare_one, Finder.ofKeywords]
  by_cases hquery : terms query = []
  · simp only [hquery]
    exact ⟨rfl, rfl⟩
  · have hempty : (terms query).isEmpty = false := List.isEmpty_eq_false_iff.mpr hquery
    have hfind := Finder.find_share_one hquery hfew
    simp only [if_neg hquery, hempty, Bool.false_eq_true, if_false]
    refine ⟨_, _, rfl, rfl, fun column text found =>
      ⟨Finder.find column text (.keywords query .conjunction), ?_, ?_⟩, hfind,
      fun columns output t => ?_⟩
    · rw [← hfind]
      refine Finder.findInto?_eq ?_ column text found
      trivial
    · refine Finder.findInto?_eq ?_ column text found
      exact hquery
    · simp only [Matcher.apply, Finder.findIn, hfind]

/-- A request for a search in a text that stands alone. -/
def searchRequest (kind : OperatorKind) : Request where
  operator := ⟨"find", kind⟩
  inputs := [⟨[⟨"line", .text⟩], by decide⟩]
  links := [⟨"scan", "find"⟩]
  output := ⟨[⟨"line", .text⟩, ⟨"hits", .list⟩], by decide⟩
  worker := 0
  context := ⟨{}, ⟨[]⟩⟩

/-- A repeated word counts once, and its occurrences are all found, in the order of the text. -/
theorem full_share_of_repeated_words : terms "tom Hanks tom" = ["tom", "hanks", "tom"] ∧
    ∃ all output, keywordMatcher
        (searchRequest (.keywordMatcher "tom Hanks tom" ["line"] .conjunction "hits")) =
          .ok (.worker (.matcher ⟨all, ["line"], output⟩)) ∧
      all.findInto? "line" "Hanks met TOM, hanks" [] =
        some [⟨"line", 0, 5, "hanks", "Hanks"⟩, ⟨"line", 10, 13, "tom", "TOM"⟩,
          ⟨"line", 15, 20, "hanks", "hanks"⟩] := by
  have hterms : terms "tom Hanks tom" = ["tom", "hanks", "tom"] := by decide +kernel
  have hdistinct : ["tom", "hanks", "tom"].eraseDups = ["tom", "hanks"] := by decide +kernel
  have hshare : (searchRequest
      (.fuzzyMatcher "tom Hanks tom" ["line"] (.ofNat 1) "hits")).operator.kind =
        .fuzzyMatcher "tom Hanks tom" ["line"] (.ofNat 1) "hits" := rfl
  have hall : (searchRequest
      (.keywordMatcher "tom Hanks tom" ["line"] .conjunction "hits")).operator.kind =
        .keywordMatcher "tom Hanks tom" ["line"] .conjunction "hits" := rfl
  have hfew : (terms "tom Hanks tom").eraseDups.length < 2 ^ 53 := by
    rw [hterms, hdistinct]
    decide
  have hsame := full_share_finds_all_words hshare hall hfew
  rw [if_neg (by rw [hterms]; exact List.cons_ne_nil _ _)] at hsame
  obtain ⟨share, all, hshare, hall, hinto, -, -⟩ := hsame
  have hfuzzy : fuzzyMatcher
      (searchRequest (.fuzzyMatcher "tom Hanks tom" ["line"] (.ofNat 1) "hits")) =
        .ok (.worker (.matcher ⟨.fuzzy (terms "tom Hanks tom").eraseDups (.ofNat 1), ["line"],
          _⟩)) := rfl
  cases hfuzzy.symm.trans hshare
  obtain ⟨spans, hspans, hfound⟩ := hinto "line" "Hanks met TOM, hanks" []
  exact ⟨hterms, all, _, hall, hfound.trans (hspans.symm.trans (by decide +kernel))⟩

end StandardFactory

end Dataflow
