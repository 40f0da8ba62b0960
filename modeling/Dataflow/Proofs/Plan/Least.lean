import Mathlib.Data.String.Basic
import Dataflow.Proofs.Plan.Parts
import Dataflow.Proofs.Plan.Shape

/-!
# The least order of the operators

Of all orders in which producers come before consumers, a plan that can run is given the least one,
where orders are compared name by name and names byte by byte. So the order of its operators is
determined by which operators and links there are, and not by how they were declared.
-/

namespace Dataflow

/-- The bytes of a text. -/
def bytes (s : String) : List UInt8 :=
  s.toUTF8.data.toList

lemma bytes_eq (s : String) : bytes s = s.toList.flatMap String.utf8EncodeChar := by
  rw [bytes, String.toUTF8, ← String.utf8Encode_toList, List.utf8Encode, List.data_toByteArray,
    List.toList_toArray]

/-- Of two characters, the one with the smaller code has the smaller bytes, and they differ before
the shorter ones end. -/
lemma utf8EncodeChar_append_lt {c d : Char} (h : c < d) (s t : List UInt8) :
    String.utf8EncodeChar c ++ s < String.utf8EncodeChar d ++ t := by
  have hlt : c.val.toNat < d.val.toNat := h
  have hmax : d.val.toNat < 1114112 := by
    have := d.valid
    simp only [UInt32.isValidChar, Nat.isValidChar] at this
    omega
  -- the groups of six bits, each read off the code shifted by six bits more
  have hdiv (n : Nat) : n / 4096 = n / 64 / 64 := by omega
  have hdiv' (n : Nat) : n / 262144 = n / 64 / 64 / 64 := by omega
  have hmod (n : Nat) : (n % 64 + 128) % 256 = n % 64 + 128 := Nat.mod_eq_of_lt (by omega)
  have hmod' (n : Nat) : (n % 8 + 240) % 256 = n % 8 + 240 := Nat.mod_eq_of_lt (by omega)
  simp only [String.utf8EncodeChar]
  split_ifs <;>
    simp only [List.cons_append, List.nil_append, List.cons_lt_cons_iff, UInt8.lt_iff_toNat_lt,
      ← UInt8.toNat_inj, UInt8.toNat_ofNat', Nat.reducePow, hmod, hmod', hdiv, hdiv'] <;> omega

lemma flatMap_utf8EncodeChar_lt {cs ds : List Char} (h : cs < ds) :
    cs.flatMap String.utf8EncodeChar < ds.flatMap String.utf8EncodeChar := by
  induction h with
  | @nil d ds =>
    obtain ⟨byte, more, hbytes⟩ :=
      List.exists_cons_of_ne_nil (String.utf8EncodeChar_ne_nil (c := d))
    rw [List.flatMap_nil, List.flatMap_cons, hbytes]
    exact List.nil_lt_cons byte _
  | rel h => exact utf8EncodeChar_append_lt h _ _
  | cons _ ih => exact List.append_left_lt ih

lemma bytes_lt_bytes {s t : String} (h : s < t) : bytes s < bytes t := by
  rw [bytes_eq, bytes_eq]
  exact flatMap_utf8EncodeChar_lt (String.lt_iff_toList_lt.mp h)

namespace Plan

variable {p q : Plan} {remaining order other : List OperatorId}

/-- An order of a plan has each of its operators once, producers before consumers. -/
structure Orders (p : Plan) (order : List OperatorId) : Prop where
  perm : order.Perm p.ids
  idxOf_lt : ∀ link ∈ p.links, order.idxOf link.producer < order.idxOf link.consumer

lemma Orders.nodup (h : p.Orders order) : order.Nodup :=
  h.perm.nodup_iff.mpr p.nodup_ids

lemma Orders.sorted (h : p.Orders order) : p.Sorted order := by
  rintro before id after rfl a hfeeds
  have hlt := h.idxOf_lt ⟨a, id⟩ hfeeds
  have hid : id ∉ before := fun hmem =>
    (List.nodup_append.mp h.nodup).2.2 id hmem id List.mem_cons_self rfl
  by_contra ha
  rw [List.idxOf_append_of_notMem ha, List.idxOf_append_of_notMem hid, List.idxOf_cons_self] at hlt
  omega

/-- Taking out the least operator that is ready, again and again, gives the least order. In any
other order the first operator is ready, too, and the rest orders what remains. -/
lemma takeReady_least (hasc : remaining.Pairwise (· < ·)) (hperm : other.Perm remaining)
    (hsorted : ∀ before id after, other = before ++ id :: after →
      ∀ a ∈ remaining, p.Feeds a id → a ∈ before) :
    other = (p.takeReady remaining).1 ∨ (p.takeReady remaining).1 < other := by
  induction remaining using takeReady.induct p generalizing other with
  | case1 remaining hnone =>
    rcases other with _ | ⟨id, rest⟩
    · exact .inl (by rw [takeReady_of_none hnone])
    · have hready : p.isReady remaining id = true :=
        isReady_iff.mpr fun a hfeeds ha => by simpa using hsorted [] id rest rfl a ha hfeeds
      exact absurd hready
        (List.find?_eq_none.mp hnone id (hperm.mem_iff.mp List.mem_cons_self))
  | case2 remaining first hsome _ _ _ ih =>
    have hfirst := List.mem_of_find?_eq_some hsome
    rw [takeReady_of_some hsome]
    rcases other with _ | ⟨id, rest⟩
    · exact absurd (hperm.mem_iff.mpr hfirst) List.not_mem_nil
    have hready : p.isReady remaining id = true :=
      isReady_iff.mpr fun a hfeeds ha => by simpa using hsorted [] id rest rfl a ha hfeeds
    have hle := le_of_find?_eq_some hasc hsome (hperm.mem_iff.mp List.mem_cons_self) hready
    rcases hle.lt_or_eq with hlt | rfl
    · exact .inr (List.cons_lt_cons_iff.mpr (.inl hlt))
    have hrest : rest.Perm (remaining.erase first) :=
      (hperm.trans (List.perm_cons_erase hfirst)).cons_inv
    have hsorted' : ∀ before id after, rest = before ++ id :: after →
        ∀ a ∈ remaining.erase first, p.Feeds a id → a ∈ before := by
      intro before id after heq a ha hfeeds
      have hnodup : remaining.Nodup := hasc.imp ne_of_lt
      have hne : a ≠ first := (hnodup.mem_erase_iff.mp ha).1
      have hbefore := hsorted (first :: before) id after (congrArg (first :: ·) heq) a
        (List.mem_of_mem_erase ha) hfeeds
      exact (List.mem_cons.mp hbefore).resolve_left hne
    rcases ih (hasc.sublist List.erase_sublist) hrest hsorted' with heq | hlt
    · exact .inl (congrArg (first :: ·) heq)
    · exact .inr (List.cons_lt_cons_iff.mpr (.inr ⟨rfl, hlt⟩))

lemma Orders.least (hother : p.Orders other) (h : p.order = .ok order) :
    other = order ∨ order < other := by
  have hleast := takeReady_least p.ascending_ids hother.perm fun before id after heq a _ hfeeds =>
    hother.sorted before id after heq a hfeeds
  unfold Plan.order at h
  split at h
  · rename_i taken htake
    obtain rfl := Except.ok.inj h
    rwa [htake] at hleast
  · cases h

lemma orders_of_order_eq_ok (hresolved : ShapeCondition.resolved.Holds p)
    (h : p.order = .ok order) : p.Orders order := by
  obtain ⟨hperm, hsorted⟩ := order_eq_ok hresolved h
  have hnodup : order.Nodup := hperm.nodup_iff.mpr p.nodup_ids
  refine ⟨hperm, fun link hlink => hsorted.idxOf_lt hnodup ?_ hlink⟩
  exact hperm.mem_iff.mpr (hresolved link hlink).2

section Declared

variable (hoperators : q.operators = p.operators) (hlinks : q.links.Perm p.links)

include hlinks in
lemma feeds_congr : q.Feeds = p.Feeds := by
  funext a b
  exact propext hlinks.mem_iff

include hoperators in
lemma ids_congr : q.ids = p.ids := by
  rw [ids, ids, hoperators]

include hoperators hlinks in
lemma Orders.congr (h : p.Orders order) : q.Orders order where
  perm := ids_congr hoperators ▸ h.perm
  idxOf_lt := fun link hlink => h.idxOf_lt link (hlinks.mem_iff.mp hlink)

include hoperators hlinks in
/-- The conditions under which a plan can run do not depend on how it was declared. -/
lemma holds_congr {condition : ShapeCondition} (h : condition.Holds p) : condition.Holds q := by
  cases condition with
  | resolved =>
    intro link hlink
    rw [ids_congr hoperators]
    exact h link (hlinks.mem_iff.mp hlink)
  | acyclic => simpa only [ShapeCondition.Holds, feeds_congr hlinks] using h
  | connected =>
    simpa only [ShapeCondition.Holds, feeds_congr hlinks, ids_congr hoperators] using h
  | oneSink => simpa only [ShapeCondition.Holds, hoperators] using h
  | fed =>
    simpa only [ShapeCondition.Holds, feeds_congr hlinks, ids_congr hoperators, hoperators] using h
  | arities =>
    intro operator hoperator
    simp only [ShapeCondition.LinksAgree, hlinks.countP_eq]
    exact h operator (hoperators ▸ hoperator)

include hoperators in
lemma onlySink_congr : q.onlySink = p.onlySink := by
  rw [onlySink, onlySink, sinks, sinks, hoperators]

end Declared

lemma order_unique {order' : List OperatorId} (hoperators : q.operators = p.operators)
    (hlinks : q.links.Perm p.links) (hp : p.order = .ok order) (hp' : p.Orders order)
    (hq : q.order = .ok order') (hq' : q.Orders order') : order' = order := by
  rcases (hq'.congr hoperators.symm hlinks.symm).least hp with heq | hlt
  · exact heq
  rcases (hp'.congr hoperators hlinks).least hq with heq | hgt
  · exact heq.symm
  · exact absurd hgt (List.lt_asymm hlt)

/-- A plan that can run is given the least of its orders, where orders are compared name by name and
names byte by byte. The same order and the same sink are found however its operators and links were
declared. -/
theorem order_least_of_validate {v : ValidPlan} (h : p.validate = .ok v) :
    p.Orders v.order ∧
      (∀ other, p.Orders other → other = v.order ∨ v.order.map bytes < other.map bytes) ∧
      ∀ operators links, operators.Perm p.operators → links.Perm p.links →
        ∃ q w, ofParts operators links = .ok q ∧ q.validate = .ok w ∧
          w.order = v.order ∧ w.sink = v.sink := by
  obtain rfl := plan_of_validate_eq_ok h
  obtain ⟨hholds, horder, hsink⟩ := spec_of_valid v
  have horders := orders_of_order_eq_ok (hholds .resolved) horder
  refine ⟨horders, fun other hother => ?_, fun operators links hoperators hlinks => ?_⟩
  · rcases hother.least horder with heq | hlt
    · exact .inl heq
    · exact .inr (List.map_lt (fun _ _ => bytes_lt_bytes) hlt)
  -- the plan declared otherwise differs only in the order of its links
  obtain ⟨q, hsame, rfl⟩ : ∃ q : Plan, q.operators = v.plan.operators ∧ q.links = links :=
    ⟨⟨_, links, v.plan.ascending, hlinks.nodup_iff.mpr v.plan.distinct⟩, rfl, rfl⟩
  obtain ⟨w, hw⟩ := exists_valid fun condition => holds_congr hsame hlinks (hholds condition)
  refine ⟨q, w, ofParts_eq_ok_iff.mpr ⟨hsame ▸ hoperators.symm, rfl⟩, hw, ?_⟩
  obtain ⟨hholds', horder', hsink'⟩ := spec_of_valid w
  rw [plan_of_validate_eq_ok hw] at hholds' horder' hsink'
  constructor
  · exact order_unique hsame hlinks horder horders horder'
      (orders_of_order_eq_ok (hholds' .resolved) horder')
  · rw [onlySink_congr hsame] at hsink'
    exact Except.ok.inj (hsink'.symm.trans hsink)

/-- Pages are joined with their own projection. The join and the sink have the least names, and the
pages that are projected have a name whose first byte is greater than any letter. -/
def crossedPages : Plan where
  operators := [⟨"all", .tupleSink⟩, ⟨"both", .join "page" "page" 1⟩, ⟨"docs", .scanSource "docs"⟩,
    ⟨"short", .projection ["page"]⟩, ⟨"übrige", .scanSource "docs"⟩]
  links := [⟨"both", "all"⟩, ⟨"short", "both"⟩, ⟨"übrige", "short"⟩, ⟨"docs", "both"⟩]
  ascending := by
    unfold Ascending
    decide
  distinct := by decide

/-- The plan with its order and its sink. -/
def crossedPagesPlan : ValidPlan where
  plan := crossedPages
  order := ["docs", "übrige", "short", "both", "all"]
  sink := "all"
  checked := by decide +kernel

/-- Both scans can come first, and the one with the lesser bytes does, also when everything is
declared the other way round. -/
theorem crossedPages_order_least : crossedPages.validate = .ok crossedPagesPlan ∧
    crossedPages.Orders ["übrige", "short", "docs", "both", "all"] ∧
    ["docs", "übrige", "short", "both", "all"].map bytes <
      ["übrige", "short", "docs", "both", "all"].map bytes ∧
    ∃ q w, ofParts crossedPages.operators.reverse crossedPages.links.reverse = .ok q ∧
      q.validate = .ok w ∧ w.order = ["docs", "übrige", "short", "both", "all"] ∧
      w.sink = "all" := by
  have hvalid : crossedPages.validate = .ok crossedPagesPlan := validate_plan crossedPagesPlan
  have hother : crossedPages.Orders ["übrige", "short", "docs", "both", "all"] :=
    ⟨by decide, by decide⟩
  obtain ⟨-, hleast, hdeclared⟩ := order_least_of_validate hvalid
  exact ⟨hvalid, hother, (hleast _ hother).resolve_left (by decide),
    hdeclared _ _ (List.reverse_perm _) (List.reverse_perm _)⟩

end Plan

end Dataflow
