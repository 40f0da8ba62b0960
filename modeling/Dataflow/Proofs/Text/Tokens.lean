import Dataflow.Proofs.Text.Places
import Dataflow.Text.Token

/-!
# Where the words of a text are

The tokens of a text split it into gaps without letters and digits and runs of them that are as
long as can be. So tokens come in order, with a gap between any two, and each has the lower-case
form of the part of the text at its place.
-/

namespace Dataflow

/-- How characters that begin at an offset split into tokens: before each there is a gap, and no
letter or digit follows it. -/
inductive SplitsInto : Nat → List Char → List Token → Prop
  | gap {offset : Nat} {gap : List Char} (hgap : ∀ c ∈ gap, isAlphanumeric c = false) :
    SplitsInto offset gap []
  | token {offset : Nat} {gap run rest : List Char} {tokens : List Token}
    (hgap : ∀ c ∈ gap, isAlphanumeric c = false) (hne : run ≠ [])
    (hrun : ∀ c ∈ run, isAlphanumeric c = true)
    (hend : ∀ c ∈ rest.head?, isAlphanumeric c = false)
    (hrest : SplitsInto (offset + byteLength gap + byteLength run) rest tokens) :
    SplitsInto offset (gap ++ run ++ rest)
      (⟨offset + byteLength gap, offset + byteLength gap + byteLength run,
        lowercase (String.ofList run)⟩ :: tokens)

section Scanner

variable {start offset : Nat} {run cs : List Char}

lemma tokensFrom_start (start start' : Nat) :
    tokensFrom start [] offset cs = tokensFrom start' [] offset cs := by
  cases cs with
  | nil => rfl
  | cons c cs => simp [tokensFrom]

lemma tokensFrom_gap {gap : List Char} (hgap : ∀ c ∈ gap, isAlphanumeric c = false) :
    tokensFrom start [] offset (gap ++ cs) =
      tokensFrom start [] (offset + byteLength gap) cs := by
  induction gap generalizing start offset with
  | nil => rfl
  | cons c gap ih =>
    obtain ⟨hc, hgap⟩ := List.forall_mem_cons.mp hgap
    rw [List.cons_append, tokensFrom, hc, if_neg Bool.false_ne_true, if_pos List.isEmpty_nil,
      ih hgap, byteLength_cons, Nat.add_assoc, tokensFrom_start]

lemma tokensFrom_run {more : List Char} (hne : run ≠ [])
    (hmore : ∀ c ∈ more, isAlphanumeric c = true) : tokensFrom start run offset (more ++ cs) =
      tokensFrom start (more.reverse ++ run) (offset + byteLength more) cs := by
  induction more generalizing run offset with
  | nil => rfl
  | cons c more ih =>
    obtain ⟨hc, hmore⟩ := List.forall_mem_cons.mp hmore
    have hempty : run.isEmpty = false := List.isEmpty_eq_false_iff.mpr hne
    rw [List.cons_append, tokensFrom, if_pos hc, hempty, if_neg Bool.false_ne_true,
      ih (List.cons_ne_nil c run) hmore, byteLength_cons, Nat.add_assoc, List.reverse_cons,
      List.append_assoc, List.singleton_append]

lemma tokensFrom_end (hne : run ≠ []) (hend : ∀ c ∈ cs.head?, isAlphanumeric c = false) :
    tokensFrom start run offset cs =
      .ofRun start offset run :: tokensFrom start [] offset cs := by
  have hempty : run.isEmpty = false := List.isEmpty_eq_false_iff.mpr hne
  cases cs with
  | nil => simp [tokensFrom, hempty]
  | cons c cs =>
    have hc : isAlphanumeric c = false := hend c rfl
    simp [tokensFrom, hc, hempty]

lemma tokensFrom_token {gap rest : List Char} (hgap : ∀ c ∈ gap, isAlphanumeric c = false)
    (hne : run ≠ []) (hrun : ∀ c ∈ run, isAlphanumeric c = true)
    (hend : ∀ c ∈ rest.head?, isAlphanumeric c = false) :
    tokensFrom start [] offset (gap ++ run ++ rest) =
      ⟨offset + byteLength gap, offset + byteLength gap + byteLength run,
        lowercase (String.ofList run)⟩ ::
        tokensFrom start [] (offset + byteLength gap + byteLength run) rest := by
  obtain ⟨c, more, rfl⟩ := List.exists_cons_of_ne_nil hne
  obtain ⟨hc, hmore⟩ := List.forall_mem_cons.mp hrun
  rw [List.append_assoc, tokensFrom_gap hgap, List.cons_append, tokensFrom, if_pos hc,
    if_pos List.isEmpty_nil, tokensFrom_run (List.cons_ne_nil c []) hmore,
    tokensFrom_end (by simp) hend, tokensFrom_start _ start, Token.ofRun, byteLength_cons]
  simp [Nat.add_assoc]

lemma exists_longest_run (test : Char → Bool) (cs : List Char) : ∃ run rest, run ++ rest = cs ∧
    (∀ c ∈ run, test c = true) ∧ ∀ c ∈ rest.head?, test c = false := by
  refine ⟨cs.takeWhile test, cs.dropWhile test, List.takeWhile_append_dropWhile,
    List.all_eq_true.mp List.all_takeWhile, fun c hc => ?_⟩
  have hhead := List.head?_dropWhile_not test cs
  rw [Option.mem_def.mp hc] at hhead
  simpa using hhead

/-- The scanner splits what is left of a text. -/
lemma splitsInto_tokensFrom (start offset : Nat) (cs : List Char) :
    SplitsInto offset cs (tokensFrom start [] offset cs) := by
  induction hlength : cs.length using Nat.strongRecOn generalizing offset cs with
  | ind n ih =>
    obtain ⟨gap, others, rfl, hgap, hothers⟩ := exists_longest_run (!isAlphanumeric ·) cs
    obtain ⟨run, rest, rfl, hrun, hend⟩ := exists_longest_run isAlphanumeric others
    simp only [Bool.not_eq_true'] at hgap
    rcases eq_or_ne run [] with rfl | hne
    · -- What is left begins neither with a letter or digit nor with anything else.
      have hrest : rest = [] := by
        cases rest with
        | nil => rfl
        | cons c rest => exact absurd (hothers c rfl) (by simp [hend c rfl])
      subst hrest
      rw [tokensFrom_gap hgap, List.nil_append, List.append_nil]
      exact .gap hgap
    · rw [← List.append_assoc, tokensFrom_token hgap hne hrun hend]
      refine .token hgap hne hrun hend (ih rest.length ?_ _ _ rfl)
      have := List.length_pos_iff.mpr hne
      simp only [List.length_append] at hlength
      omega

end Scanner

/-- The tokens of a text split it. -/
theorem splitsInto_tokens (text : String) : SplitsInto 0 text.toList (tokens text) :=
  splitsInto_tokensFrom ..

namespace SplitsInto

variable {offset : Nat} {cs : List Char} {tokens : List Token}

/-- Tokens come from their place on; behind a letter or digit there is a gap first. -/
lemma le_start (h : SplitsInto offset cs tokens) : ∀ t ∈ tokens, offset ≤ t.start := by
  induction h with
  | gap hgap => exact List.forall_mem_nil _
  | token hgap hne hrun hend hrest ih =>
    refine List.forall_mem_cons.mpr ⟨Nat.le_add_right .., fun t ht => ?_⟩
    exact (Nat.le_add_right ..).trans ((Nat.le_add_right ..).trans (ih t ht))

/-- Tokens do not begin where no letter or digit comes next. -/
lemma lt_start (h : SplitsInto offset cs tokens)
    (hhead : ∀ c ∈ cs.head?, isAlphanumeric c = false) : ∀ t ∈ tokens, offset < t.start := by
  cases h with
  | gap hgap => exact List.forall_mem_nil _
  | @token _ gap run rest _ hgap hne hrun hend hrest =>
    have hpos : gap ≠ [] := by
      rintro rfl
      obtain ⟨c, more, rfl⟩ := List.exists_cons_of_ne_nil hne
      exact absurd (hhead c rfl) (by simp [hrun c List.mem_cons_self])
    have hgap := byteLength_pos hpos
    refine List.forall_mem_cons.mpr ⟨Nat.lt_add_of_pos_right hgap, fun t ht => ?_⟩
    have := hrest.le_start t ht
    omega

lemma pairwise (h : SplitsInto offset cs tokens) :
    tokens.Pairwise fun t u => t.stop < u.start := by
  induction h with
  | gap hgap => exact .nil
  | token hgap hne hrun hend hrest ih => exact .cons (hrest.lt_start hend) ih

/-- A token is a run of letters and digits in its lower-case form. -/
lemma exists_slice? (h : SplitsInto offset cs tokens) {text : String} (before : List Char)
    (htext : text.toList = before ++ cs) (hoffset : byteLength before = offset) :
    ∀ t ∈ tokens, t.start < t.stop ∧ ∃ part, slice? text t.start t.stop = some part ∧
      (∀ c ∈ part.toList, isAlphanumeric c = true) ∧ t.term = lowercase part := by
  induction h generalizing before with
  | gap hgap => exact List.forall_mem_nil _
  | @token _ gap run rest _ hgap hne hrun hend hrest ih =>
    subst hoffset
    rw [← List.append_assoc, ← List.append_assoc] at htext
    refine List.forall_mem_cons.mpr ⟨?_, ?_⟩
    · refine ⟨Nat.lt_add_of_pos_right (byteLength_pos hne), String.ofList run, ?_, ?_, rfl⟩
      · rw [← byteLength_append]
        exact slice?_eq_of_toList htext
      · rwa [String.toList_ofList]
    · exact ih _ htext (by rw [byteLength_append, byteLength_append])

end SplitsInto

/-- Tokens come in order, with a gap between any two. -/
theorem pairwise_tokens (text : String) : (tokens text).Pairwise fun t u => t.stop < u.start :=
  (splitsInto_tokens text).pairwise

/-- A token has the lower-case form of the part of the text at its place. -/
theorem term_of_mem_tokens {text : String} {t : Token} (h : t ∈ tokens text) :
    t.start < t.stop ∧ ∃ part, slice? text t.start t.stop = some part ∧
      (∀ c ∈ part.toList, isAlphanumeric c = true) ∧ t.term = lowercase part :=
  (splitsInto_tokens text).exists_slice? [] rfl rfl t h

lemma exists_slice?_of_mem_tokens {text : String} {t : Token} (h : t ∈ tokens text) :
    t.start < t.stop ∧ ∃ part, slice? text t.start t.stop = some part := by
  obtain ⟨hlt, part, hpart, -⟩ := term_of_mem_tokens h
  exact ⟨hlt, part, hpart⟩

/-- From the start of a token to the end of one that does not come before it is a part of the
text. -/
lemma exists_slice?_run {text : String} {tokens : List Token}
    (htokens : ∀ t ∈ tokens, t.start < t.stop ∧ ∃ part, slice? text t.start t.stop = some part)
    (happart : tokens.Pairwise fun t u => t.stop < u.start) {first last : Token} {i j : Nat}
    (hij : i ≤ j) (hfirst : tokens[i]? = some first) (hlast : tokens[j]? = some last) :
    first.start < last.stop ∧ ∃ part, slice? text first.start last.stop = some part := by
  rcases hij.eq_or_lt with rfl | hij
  · obtain rfl := Option.some.inj (hfirst.symm.trans hlast)
    exact htokens _ (List.mem_of_getElem? hfirst)
  · obtain ⟨hi, rfl⟩ := List.getElem?_eq_some_iff.mp hfirst
    obtain ⟨hj, rfl⟩ := List.getElem?_eq_some_iff.mp hlast
    have hlt := List.pairwise_iff_getElem.mp happart i j hi hj hij
    simp only [exists_slice?_iff] at htokens ⊢
    obtain ⟨hfirst, -, hstart, -⟩ := htokens _ (List.getElem_mem hi)
    obtain ⟨hlast, -, -, hstop⟩ := htokens _ (List.getElem_mem hj)
    exact ⟨by omega, by omega, hstart, hstop⟩

lemma eq_of_overlap {text : String} {t u : Token} (ht : t ∈ tokens text) (hu : u ∈ tokens text)
    (htu : t.start < u.stop) (hut : u.start < t.stop) : t = u := by
  obtain ⟨i, hi, rfl⟩ := List.getElem_of_mem ht
  obtain ⟨j, hj, rfl⟩ := List.getElem_of_mem hu
  have happart := List.pairwise_iff_getElem.mp (pairwise_tokens text)
  rcases Nat.lt_trichotomy i j with hij | rfl | hji
  · have := happart i j hi hj hij
    omega
  · rfl
  · have := happart j i hj hi hji
    omega

lemma eq_of_start_eq {text : String} {t u : Token} (ht : t ∈ tokens text) (hu : u ∈ tokens text)
    (h : t.start = u.start) : t = u :=
  eq_of_overlap ht hu (h.trans_lt (term_of_mem_tokens hu).1)
    (h.symm.trans_lt (term_of_mem_tokens ht).1)

lemma exists_append_of_run {run after front rest : List Char}
    (h : run ++ after = front ++ rest) (hrun : ∀ c ∈ run, isAlphanumeric c = true)
    (hend : ∀ c ∈ rest.head?, isAlphanumeric c = false) : ∃ more, front = run ++ more := by
  rcases List.append_eq_append_iff.mp h with ⟨more, hfront, -⟩ | ⟨beyond, rfl, rfl⟩
  · exact ⟨more, hfront⟩
  · cases beyond with
    | nil => exact ⟨[], by simp⟩
    | cons c beyond =>
      have hc := hrun c (by simp)
      exact absurd hc (by simp [hend c rfl])

lemma exists_append_of_gap {gap back before run after : List Char}
    (h : before ++ (run ++ after) = gap ++ back) (hne : run ≠ [])
    (hrun : ∀ c ∈ run, isAlphanumeric c = true) (hgap : ∀ c ∈ gap, isAlphanumeric c = false) :
    ∃ more, before = gap ++ more := by
  rcases List.append_eq_append_iff.mp h with ⟨left, rfl, hleft⟩ | ⟨more, hbefore, -⟩
  · cases left with
    | nil => exact ⟨[], by simp⟩
    | cons c left =>
      obtain ⟨d, run, rfl⟩ := List.exists_cons_of_ne_nil hne
      obtain ⟨rfl, -⟩ := List.cons.inj hleft
      have hd := hrun d List.mem_cons_self
      exact absurd hd (by simp [hgap d (by simp)])
  · exact ⟨more, hbefore⟩

namespace SplitsInto

variable {offset : Nat} {cs : List Char} {tokens : List Token}

/-- A run of letters and digits lies in one of the tokens. -/
lemma exists_token (h : SplitsInto offset cs tokens) {before run after : List Char}
    (hcs : before ++ (run ++ after) = cs) (hne : run ≠ [])
    (hrun : ∀ c ∈ run, isAlphanumeric c = true) :
    ∃ t ∈ tokens, t.start ≤ offset + byteLength before ∧
      offset + byteLength before + byteLength run ≤ t.stop := by
  induction h generalizing before with
  | gap hgap =>
    subst hcs
    obtain ⟨c, hc⟩ := List.exists_mem_of_ne_nil run hne
    exact absurd (hrun c hc) (by simp [hgap c (by simp [hc])])
  | @token offset gap word rest others hgap _ hword hend _ ih =>
    rw [List.append_assoc] at hcs
    obtain ⟨more, rfl⟩ := exists_append_of_gap hcs hne hrun hgap
    rw [List.append_assoc, List.append_cancel_left_eq] at hcs
    rcases List.append_eq_append_iff.mp hcs with ⟨front, rfl, hfront⟩ | ⟨beyond, rfl, hrest⟩
    · -- The run begins within the first token, and so it ends within it.
      obtain ⟨left, rfl⟩ := exists_append_of_run hfront hrun hend
      refine ⟨_, List.mem_cons_self, ?_, ?_⟩
      · simp only [byteLength_append]
        omega
      · simp only [byteLength_append]
        omega
    · obtain ⟨t, ht, hstart, hstop⟩ := ih hrest.symm
      refine ⟨t, List.mem_cons_of_mem _ ht, ?_, ?_⟩
      · simp only [byteLength_append]
        omega
      · simp only [byteLength_append]
        omega

/-- Between two tokens there is a character that is neither a letter nor a digit: the one behind the
first of them. -/
lemma pairwise_gap (h : SplitsInto offset cs tokens) {text : String}
    (before : List Char) (htext : text.toList = before ++ cs)
    (hoffset : byteLength before = offset) :
    tokens.Pairwise fun t u => ∃ gap, slice? text t.stop u.start = some gap ∧
      ∃ c ∈ gap.toList, isAlphanumeric c = false := by
  induction h generalizing before with
  | gap hgap => exact .nil
  | @token _ gap run rest others hgap hne hrun hend hrest ih =>
    subst hoffset
    rw [← List.append_assoc, ← List.append_assoc] at htext
    have hstop : byteLength (before ++ gap ++ run) =
        byteLength before + byteLength gap + byteLength run := by
      rw [byteLength_append, byteLength_append]
    refine .cons (fun u hu => ?_) (ih _ htext hstop)
    have hlt := hrest.lt_start hend u hu
    obtain ⟨-, part, hpart, -⟩ := hrest.exists_slice? _ htext hstop u hu
    obtain ⟨-, hstart, -⟩ := exists_slice?_iff.mp ⟨part, hpart⟩
    obtain ⟨upTo, after, htext', hupTo⟩ := isValid_iff.mp hstart
    obtain ⟨between, rfl, rfl⟩ :=
      exists_append_of_byteLength_le (htext.symm.trans htext') (by omega)
    rw [byteLength_append] at hupTo
    cases between with
    | nil =>
      rw [byteLength_nil] at hupTo
      omega
    | cons c more =>
      refine ⟨String.ofList (c :: more), ?_, c, by simp, hend c rfl⟩
      rw [← hstop, ← hupTo]
      exact slice?_eq_of_toList htext'

end SplitsInto

/-- The tokens of a text are its longest runs of letters and digits. Any two come in order, with a
character between them that is neither. Each is a part of the text that is not empty and has letters
and digits only, and its term is the lower-case form of this part. Every part that has letters and
digits only, be it a single character or more, lies in exactly one token: none is left out, and no
token could be longer. -/
theorem tokens_longest_runs (text : String) :
    ((tokens text).Pairwise fun t u => t.stop < u.start ∧ ∃ gap,
      slice? text t.stop u.start = some gap ∧ ∃ c ∈ gap.toList, isAlphanumeric c = false) ∧
    (∀ t ∈ tokens text, t.start < t.stop ∧ ∃ run, slice? text t.start t.stop = some run ∧
      (∀ c ∈ run.toList, isAlphanumeric c = true) ∧ t.term = lowercase run) ∧
    ∀ start stop run, slice? text start stop = some run → run ≠ "" →
      (∀ c ∈ run.toList, isAlphanumeric c = true) →
      ∃! t, t ∈ tokens text ∧ t.start ≤ start ∧ stop ≤ t.stop := by
  have hsplits := splitsInto_tokens text
  refine ⟨(pairwise_tokens text).and (hsplits.pairwise_gap [] rfl rfl),
    fun t ht => term_of_mem_tokens ht, fun start stop run hslice hne hrun => ?_⟩
  obtain ⟨before, after, htext, rfl, rfl⟩ := slice?_eq_some_iff.mp hslice
  rw [List.append_assoc] at htext
  have hnil : run.toList ≠ [] := mt String.toList_eq_nil_iff.mp hne
  obtain ⟨t, ht, hstart, hstop⟩ := hsplits.exists_token htext.symm hnil hrun
  rw [Nat.zero_add] at hstart hstop
  refine ⟨t, ⟨ht, hstart, hstop⟩, fun u ⟨hu, hustart, hustop⟩ => ?_⟩
  have hpos := byteLength_pos hnil
  exact eq_of_overlap hu ht (by omega) (by omega)

/-- Half a figure is a character of its own, and it is in the token of the digit before it. -/
theorem token_of_vulgar_fraction : slice? "Señor, 7½!" 9 11 = some "½" ∧
    tokens "Señor, 7½!" = [⟨0, 6, "señor"⟩, ⟨8, 11, "7½"⟩] ∧
    ∃! t, t ∈ tokens "Señor, 7½!" ∧ t.start ≤ 9 ∧ 11 ≤ t.stop := by
  have hslice : slice? "Señor, 7½!" 9 11 = some "½" := by decide +kernel
  have hrun : "½".toList.all isAlphanumeric = true := by decide +kernel
  exact ⟨hslice, by decide +kernel, (tokens_longest_runs "Señor, 7½!").2.2 9 11 "½" hslice
    (by decide) (List.all_eq_true.mp hrun)⟩

end Dataflow
