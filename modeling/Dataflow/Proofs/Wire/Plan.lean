import Dataflow.Proofs.Lists
import Dataflow.Proofs.Plan.Parts
import Dataflow.Proofs.Wire.Operator
import Dataflow.Wire.Plan

/-!
# Submitted plans that are written and read

A plan is read back from its text, with every operator, option and default filled in, and with its
links in their order. In which order the operators of a submission stand does not matter.
-/

namespace Dataflow

lemma Link.proper_toJson (link : Link) : link.toJson.Proper :=
  .object (by simp [Json.Proper.string])

lemma Link.depth_toJson (link : Link) : link.toJson.depth = 1 :=
  rfl

lemma Link.reads (link : Link) : Decoder.Reads ofJson? link.toJson link := by
  intro room
  rw [depth_toJson]
  cases room with
  | zero => rfl
  | succ room =>
    have hrecord := Json.record?_object
      [("from", .string link.producer), ("to", .string link.consumer)] (by simp) room
    rw [if_pos (by omega), ofJson?, toJson]
    simp only [List.map_cons, List.map_nil] at hrecord
    simp only [hrecord, Json.required?, Option.bind_some, Json.string?]
    rfl

namespace Plan

variable {p : Plan}

lemma proper_toJson (h : ∀ operator ∈ p.operators, operator.kind.Portable) : p.toJson.Proper := by
  apply Json.Proper.object
  simp only [List.forall_mem_cons]
  exact ⟨.array_map fun operator hmem => Operator.proper_toJson (h operator hmem),
    .array_map fun link _ => link.proper_toJson, by simp⟩

lemma depth_toJson_le (p : Plan) : p.toJson.depth ≤ 5 := by
  have hoperators := Json.depth_array_map_le fun operator (_ : operator ∈ p.operators) =>
    operator.depth_toJson_le
  have hlinks := Json.depth_array_map_le fun link (_ : link ∈ p.links) => link.depth_toJson.le
  simp only [toJson, Json.depth, Json.membersDepth] at hoperators hlinks ⊢
  omega

/-- The operators and the links of a plan are read back. -/
lemma reads (h : ∀ operator ∈ p.operators, operator.kind.Portable) :
    Decoder.Reads partsOfJson? p.toJson (p.operators, p.links) := by
  intro room
  cases room with
  | zero => rfl
  | succ room =>
    have hrecord := Json.record?_object [("operators", .array (p.operators.map Operator.toJson)),
      ("links", .array (p.links.map Link.toJson))] (by simp) room
    have hoperators :=
      Decoder.Reads.items? (fun operator hmem => Operator.reads (h operator hmem)) room
    have hlinks := Decoder.Reads.items? (fun link (_ : link ∈ p.links) => link.reads) room
    rw [partsOfJson?, toJson]
    simp only [List.map_cons, List.map_nil] at hrecord
    simp only [hrecord, Json.required?, Option.bind_some, Json.default?, Nat.add_sub_cancel,
      hoperators, hlinks, Json.depth_object_le_iff, List.forall_mem_cons]
    by_cases hoperators : (Json.array (p.operators.map Operator.toJson)).depth ≤ room <;>
      by_cases hlinks : (Json.array (p.links.map Link.toJson)).depth ≤ room <;>
      simp [hoperators, hlinks]

lemma decodeText?_text (h : ∀ operator ∈ p.operators, operator.kind.Portable) :
    decodeText? partsOfJson? p.text = some (p.operators, p.links) := by
  rw [text, (p.reads h).decodeText? (p.proper_toJson h), if_pos]
  exact p.depth_toJson_le.trans (by norm_num [nestingLimit])

lemma partsOfJson?_eq_some_iff {room : Nat} {j : Json} {operators : List Operator}
    {links : List Link} : partsOfJson? room j = some (operators, links) ↔
      ∃ first second, Json.record? ["operators", "links"] room j = some [first, second] ∧
        Json.required? (Json.items? Operator.ofJson? (room - 1)) first = some operators ∧
        Json.default? [] (Json.items? Link.ofJson? (room - 1)) second = some links := by
  unfold partsOfJson?
  constructor
  · intro h
    split at h
    · rename_i first second hrecord
      simp only [Option.bind_eq_bind, Option.pure_def, Option.bind_eq_some_iff, Option.some.injEq,
        Prod.mk.injEq] at h
      obtain ⟨_, hfirst, _, hsecond, rfl, rfl⟩ := h
      exact ⟨first, second, hrecord, hfirst, hsecond⟩
    · cases h
  · rintro ⟨first, second, hrecord, hfirst, hsecond⟩
    simp [hrecord, hfirst, hsecond]

lemma items?_eq_some_iff {α : Type} {read : Decoder α} {room : Nat} {j : Json} {xs : List α} :
    Json.items? read room j = some xs ↔
      ∃ room' items, room = room' + 1 ∧ j = .array items ∧ items.mapM (read room') = some xs := by
  constructor
  · intro h
    match room, j with
    | room + 1, .array items => exact ⟨room, items, rfl, rfl, h⟩
  · rintro ⟨room', items, rfl, rfl, h⟩
    exact h

/-- The numbers of the operators of a plan that was read are those of a machine word, and finite
doubles. -/
lemma of_partsOfJson? {room : Nat} {j : Json} {operators : List Operator} {links : List Link}
    (h : partsOfJson? room j = some (operators, links)) {operator : Operator}
    (hmem : operator ∈ operators) :
    (∀ n ∈ operator.kind.words, n < 2 ^ 64) ∧ ∀ x ∈ operator.kind.doubles, x.isFinite := by
  obtain ⟨first, -, -, hfirst, -⟩ := partsOfJson?_eq_some_iff.mp h
  obtain ⟨j, -, hj⟩ := Option.bind_eq_some_iff.mp hfirst
  obtain ⟨room', items, -, -, hitems⟩ := items?_eq_some_iff.mp hj
  obtain ⟨item, -, hitem⟩ := exists_mem_of_mapM hitems hmem
  exact Operator.of_ofJson? hitem

/-- Submissions that differ only in the order of their operators. -/
inductive SameButOrder : Json → Json → Prop
  | object (before after : List (String × Json)) {items items' : List Json}
      (h : items.Perm items') : SameButOrder
        (.object (before ++ ("operators", .array items) :: after))
        (.object (before ++ ("operators", .array items') :: after))
  | array (rest : List Json) {items items' : List Json} (h : items.Perm items') :
      SameButOrder (.array (.array items :: rest)) (.array (.array items' :: rest))

lemma SameButOrder.symm {j j' : Json} (h : SameButOrder j j') : SameButOrder j' j := by
  cases h with
  | object before after h => exact .object before after h.symm
  | array rest h => exact .array rest h.symm

lemma member?_of_ne {name key : String} (h : key ≠ name) (before after : List (String × Json))
    (value value' : Json) : Json.member? (before ++ (key, value) :: after) name =
      Json.member? (before ++ (key, value') :: after) name := by
  simp [Json.member?, List.filter_append, h]

lemma member?_self {key : String} {before after : List (String × Json)} {value : Json}
    {found : Option Json} (h : Json.member? (before ++ (key, value) :: after) key = some found)
    (value' : Json) : found = some value ∧
      Json.member? (before ++ (key, value') :: after) key = some (some value') := by
  simp only [Json.member?, List.filter_append, List.filter_cons, beq_self_eq_true, if_true] at h ⊢
  generalize before.filter (·.1 == key) = before at h ⊢
  generalize after.filter (·.1 == key) = after at h ⊢
  -- The key occurs once, or nothing would have been found.
  rcases before with _ | ⟨_, _ | _⟩
  · rcases after with _ | _
    · exact ⟨(Option.some.inj h).symm, rfl⟩
    · cases h
  · cases h
  · cases h

lemma record?_pair_eq_some_iff {a b : String} {members : List (String × Json)} {room : Nat}
    {first second : Option Json} :
    Json.record? [a, b] (room + 1) (.object members) = some [first, second] ↔
      Json.member? members a = some first ∧ Json.member? members b = some second := by
  rw [Json.record?, List.mapM_cons, List.mapM_cons, List.mapM_nil]
  cases Json.member? members a <;> cases Json.member? members b <;> simp

/-- The operators of a submission are told apart from its links by their name or their place. -/
lemma SameButOrder.record? {j j' : Json} (h : SameButOrder j j') {room : Nat}
    {first second : Option Json}
    (hrecord : Json.record? ["operators", "links"] room j = some [first, second]) :
    ∃ items items', items.Perm items' ∧ first = some (.array items) ∧
      Json.record? ["operators", "links"] room j' = some [some (.array items'), second] := by
  cases room with
  | zero => cases hrecord
  | succ room =>
    cases h with
    | @object before after items items' h =>
      rw [record?_pair_eq_some_iff] at hrecord
      obtain ⟨hfirst, hsecond⟩ := hrecord
      obtain ⟨rfl, hfirst'⟩ := member?_self hfirst (.array items')
      refine ⟨items, items', h, rfl, record?_pair_eq_some_iff.mpr ⟨hfirst', ?_⟩⟩
      rw [← member?_of_ne (by decide) before after (.array items), hsecond]
    | @array rest items items' h =>
      simp only [Json.record?, List.length_cons] at hrecord ⊢
      split_ifs at hrecord with hlength
      rw [Option.some.injEq, List.map_cons, List.cons_append, List.cons.injEq] at hrecord
      refine ⟨items, items', h, hrecord.1.symm, ?_⟩
      rw [if_pos hlength, List.map_cons, List.cons_append, hrecord.2]

/-- Whatever order the operators of a submission have, the same are read. -/
lemma SameButOrder.partsOfJson? {j j' : Json} (h : SameButOrder j j') {room : Nat}
    {operators : List Operator} {links : List Link}
    (hj : partsOfJson? room j = some (operators, links)) :
    ∃ operators', partsOfJson? room j' = some (operators', links) ∧ operators'.Perm operators := by
  obtain ⟨first, second, hrecord, hfirst, hsecond⟩ := partsOfJson?_eq_some_iff.mp hj
  obtain ⟨items, items', hperm, rfl, hrecord'⟩ := h.record? hrecord
  obtain ⟨room', _, hroom, ⟨⟩, hitems⟩ := items?_eq_some_iff.mp hfirst
  obtain ⟨operators', hitems', hoperators⟩ := exists_mapM_of_perm hperm.symm hitems
  refine ⟨operators', partsOfJson?_eq_some_iff.mpr ⟨_, second, hrecord', ?_, hsecond⟩, hoperators⟩
  exact items?_eq_some_iff.mpr ⟨room', items', hroom, rfl, hitems'⟩

/-- Whatever order the operators of a submission have, it gives the same plan. -/
lemma SameButOrder.ofText {text text' : String} {j j' : Json} (h : SameButOrder j j')
    (hj : Json.ofText? text = some j) (hj' : Json.ofText? text' = some j')
    (hp : Plan.ofText text = .ok p) : Plan.ofText text' = .ok p := by
  unfold Plan.ofText decodeText? at hp ⊢
  rw [hj] at hp
  rw [hj']
  simp only [Option.bind_some] at hp ⊢
  split at hp
  · rename_i operators links hparts
    obtain ⟨operators', hparts', hperm⟩ := h.partsOfJson? hparts
    obtain ⟨hoperators, hlinks⟩ := ofParts_eq_ok_iff.mp hp
    rw [hparts']
    exact ofParts_eq_ok_iff.mpr ⟨hoperators.trans hperm.symm, hlinks⟩
  · cases hp

/-- The numbers of the operators of a submitted plan are those of a machine word, and finite
doubles. -/
lemma of_ofText {text : String} (h : Plan.ofText text = .ok p) {operator : Operator}
    (hmem : operator ∈ p.operators) :
    (∀ n ∈ operator.kind.words, n < 2 ^ 64) ∧ ∀ x ∈ operator.kind.doubles, x.isFinite := by
  unfold Plan.ofText decodeText? at h
  split at h
  · rename_i operators links hparts
    obtain ⟨j, -, hj⟩ := Option.bind_eq_some_iff.mp hparts
    obtain ⟨hoperators, -⟩ := ofParts_eq_ok_iff.mp h
    exact of_partsOfJson? hj (hoperators.mem_iff.mp hmem)
  · cases h

lemma ofText_text (h : ∀ operator ∈ p.operators, operator.kind.Portable) :
    Plan.ofText p.text = .ok p := by
  rw [Plan.ofText, decodeText?_text h]
  exact ofParts_eq_ok_iff.mpr ⟨.refl _, rfl⟩

/-- A submitted plan is read back from its text, if the thresholds are, and has the same text again;
and the order in which the operators of a submission stand does not matter. -/
theorem text_reads_back :
    (∀ text p, Plan.ofText text = .ok p →
      (∀ operator ∈ p.operators, ∀ x ∈ operator.kind.doubles, x.isFinite → x.ReadsBack) →
        Plan.ofText p.text = .ok p ∧ (Plan.ofText p.text).map Plan.text = .ok p.text) ∧
    ∀ text text' j j', Json.ofText? text = some j → Json.ofText? text' = some j' →
      SameButOrder j j' → ∀ p, Plan.ofText text = .ok p ↔ Plan.ofText text' = .ok p := by
  constructor
  · intro text p htext hdoubles
    have hsame : Plan.ofText p.text = .ok p := by
      apply ofText_text
      intro operator hmem
      obtain ⟨hwords, hfinite⟩ := of_ofText htext hmem
      exact ⟨hwords, fun x hx => ⟨hfinite x hx, hdoubles operator hmem x hx (hfinite x hx)⟩⟩
    exact ⟨hsame, congrArg (Except.map Plan.text) hsame⟩
  · intro text text' j j' hj hj' hsame p
    exact ⟨hsame.ofText hj hj', hsame.symm.ofText hj' hj⟩

/-- A plan that looks for two words. -/
def fuzzyPlan : Plan where
  operators := [⟨"scan", .scanSource "docs"⟩, ⟨"sink", .tupleSink⟩,
    ⟨"words", .fuzzyMatcher "data flow" ["text"] ⟨0x3fe0000000000000⟩ "spans"⟩]
  links := [⟨"scan", "words"⟩, ⟨"words", "sink"⟩]
  ascending := by
    unfold Ascending
    decide
  distinct := by decide

/-- Its operators as they may be submitted, with a threshold of one half. -/
def fuzzyOperators : List Json :=
  [.object [("id", .string "words"), ("kind", .string "FuzzyTokenMatcher"),
      ("query", .string "data flow"), ("attributes", .array [.string "text"]),
      ("threshold", .number ⟨false, ['0'], ['5'], none⟩), ("result_attribute", .string "spans")],
    .object [("id", .string "sink"), ("kind", .string "TupleSink")],
    .object [("id", .string "scan"), ("kind", .string "ScanSource"), ("table", .string "docs")]]

/-- A submission of operators with the links of the plan. -/
def fuzzySubmission (operators : List Json) : Json :=
  .object [("operators", .array operators),
    ("links", .array (fuzzyPlan.links.map Link.toJson))]

/-- The operators may be submitted in their order or in the opposite one, and the text of the plan
gives the plan as well. -/
theorem fuzzyPlan_reads_back :
    Plan.ofText (fuzzySubmission fuzzyOperators).text = .ok fuzzyPlan ∧
      Plan.ofText (fuzzySubmission fuzzyOperators.reverse).text = .ok fuzzyPlan ∧
      Plan.ofText fuzzyPlan.text = .ok fuzzyPlan := by
  have hthreshold : (Json.number ⟨false, ['0'], ['5'], none⟩).Proper :=
    .number (by constructor <;> simp) (by decide +kernel)
  have hcolumns : (Json.array [.string "text"]).Proper := .array (by simp [Json.Proper.string])
  have hoperators : ∀ operator ∈ fuzzyOperators, operator.Proper := by
    simp only [fuzzyOperators, List.forall_mem_cons]
    refine ⟨.object ?_, .object ?_, .object ?_, by simp⟩ <;>
      simp [Json.Proper.string, hthreshold, hcolumns]
  have hproper (operators : List Json) (h : operators.Perm fuzzyOperators) :
      (fuzzySubmission operators).Proper := by
    apply Json.Proper.object
    simp only [List.forall_mem_cons]
    exact ⟨.array fun operator hmem => hoperators operator (h.mem_iff.mp hmem),
      .array_map fun link _ => link.proper_toJson, by simp⟩
  have hread := Json.ofText?_text (hproper _ (.refl _))
  have hread' := Json.ofText?_text (hproper _ (List.reverse_perm _))
  have hplan : Plan.ofText (fuzzySubmission fuzzyOperators).text = .ok fuzzyPlan := by
    have hparts : partsOfJson? nestingLimit (fuzzySubmission fuzzyOperators) =
        some (fuzzyPlan.operators.reverse, fuzzyPlan.links) := by
      decide +kernel
    rw [Plan.ofText, decodeText?, hread, Option.bind_some, hparts]
    exact ofParts_eq_ok_iff.mpr ⟨(List.reverse_perm _).symm, rfl⟩
  refine ⟨hplan, ?_, ?_⟩
  · exact (text_reads_back.2 _ _ _ _ hread hread'
      (.object [] _ (List.reverse_perm _).symm) fuzzyPlan).mp hplan
  · have hdoubles : ∀ operator ∈ fuzzyPlan.operators, ∀ x ∈ operator.kind.doubles,
        x.isFinite → x.ReadsBack := by
      unfold Binary64.ReadsBack
      decide +kernel
    exact (text_reads_back.1 _ _ hplan hdoubles).1

end Plan

end Dataflow
