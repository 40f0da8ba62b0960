import Dataflow.Proofs.Flow.Places
import Dataflow.Proofs.Meaning.Teams
import Dataflow.Proofs.Plan.Typing

/-!
# Streams that carry rows

The stream of a node carries the rows of its operator: it fails exactly if the operator has none
because a value cannot be cast, and otherwise its tuples are these rows, bound to the schema that
was inferred. Joins give them in an order of their own.
-/

namespace Dataflow

variable {engine : PatternEngine}

/-- The same rows, in the same order if this is asked for. -/
def Alike (ordered : Prop) (xs ys : List Row) : Prop :=
  xs.Perm ys ∧ (ordered → xs = ys)

namespace Alike

variable {ordered : Prop} {xs ys : List Row}

lemma of_eq (h : xs = ys) : Alike ordered xs ys :=
  ⟨.of_eq h, fun _ => h⟩

lemma symm (h : Alike ordered xs ys) : Alike ordered ys xs :=
  ⟨h.1.symm, fun hordered => (h.2 hordered).symm⟩

lemma exists_mapM (h : Alike ordered xs ys) {f : Row → Option (List Row)} {made : List (List Row)}
    (hys : ys.mapM f = some made) :
    ∃ made', xs.mapM f = some made' ∧ Alike ordered made'.flatten made.flatten := by
  obtain ⟨made', hxs, hperm⟩ := exists_mapM_of_perm h.1 hys
  refine ⟨made', hxs, hperm.flatten, fun hordered => ?_⟩
  rw [h.2 hordered, hys, Option.some.injEq] at hxs
  rw [hxs]

end Alike

namespace OperatorKind

variable {kind : OperatorKind}

/-- Whether an operator joins two inputs. -/
def isJoin : OperatorKind → Bool
  | .join .. => true
  | _ => false

/-- Kinds that look at rows only: sources, those that look at tuples one by one, and joins. -/
def hasRows (kind : OperatorKind) : Bool :=
  kind.isSource || kind.isRowWise || kind.isJoin

lemma rows_singleton (catalog : Catalog) (kind : OperatorKind) (s : Schema) (given : List Row) :
    kind.rows engine catalog [(s, given)] =
      (given.mapM fun row => kind.onRow engine s row).map List.flatten := by
  cases kind <;> rfl

end OperatorKind

namespace Stream

/-- The tuples of a stream have a schema and carry some rows; or there are no rows, and the stream
fails. -/
structure Carries (ordered : Prop) (schema : Schema) (rows : Option (List Row)) (out : Stream) :
    Prop where
  schema_eq : ∀ x ∈ out.tuples, x.schema = schema
  rows_alike : match rows with
    | some given => out.failure = none ∧ Alike ordered (out.tuples.map Tuple.fields) given
    | none => out.failure ≠ none

variable {ordered : Prop} {a output : Schema} {rows rows' : Option (List Row)}
  {ins outs out : Stream} {f : Tuple → Result (List Tuple)} {kind : OperatorKind}

lemma carries_tuples {tuples : List Tuple} (h : ∀ x ∈ tuples, x.schema = a) :
    Carries ordered a (some (tuples.map Tuple.fields)) ⟨tuples, none⟩ where
  schema_eq := h
  rows_alike := ⟨rfl, .of_eq rfl⟩

lemma schema_through (hf : kind.Handles engine a output f) (failure : Option Error)
    {tuples : List Tuple}
    (h : ∀ t ∈ tuples, t.schema = a) : ∀ x ∈ (through f failure tuples).tuples,
      x.schema = output := by
  induction tuples with
  | nil => exact fun _ => List.not_mem_nil.elim
  | cons t tuples ih =>
    obtain ⟨ht, hrest⟩ := List.forall_mem_cons.mp h
    have hhandles := hf t ht
    rw [through]
    cases hgiven : f t with
    | error e => exact fun _ => List.not_mem_nil.elim
    | ok given =>
      rw [hgiven] at hhandles
      exact List.forall_mem_append.mpr ⟨hhandles.2, ih hrest⟩

/-- Looking at tuples one by one fails exactly if there are no rows for one of them. -/
lemma through_spec (hf : kind.Handles engine a output f) (failure : Option Error)
    {tuples : List Tuple}
    (h : ∀ t ∈ tuples, t.schema = a) :
    match (tuples.map Tuple.fields).mapM fun row => kind.onRow engine a row with
    | some made => (through f failure tuples).failure = failure ∧
        (through f failure tuples).tuples.map Tuple.fields = made.flatten
    | none => (through f failure tuples).failure ≠ none := by
  induction tuples with
  | nil => exact ⟨rfl, rfl⟩
  | cons t tuples ih =>
    obtain ⟨ht, hrest⟩ := List.forall_mem_cons.mp h
    have hhandles := hf t ht
    rw [through, List.map_cons, List.mapM_cons]
    cases hgiven : f t with
    | error e =>
      rw [hgiven] at hhandles
      rw [hhandles.1]
      exact Option.some_ne_none e
    | ok given =>
      rw [hgiven] at hhandles
      rw [hhandles.1]
      specialize ih hrest
      cases hmade : (tuples.map Tuple.fields).mapM fun row => kind.onRow engine a row with
      | none =>
        rw [hmade] at ih
        exact ih
      | some made =>
        rw [hmade] at ih
        refine ⟨ih.1, ?_⟩
        rw [tuples_after, List.map_append, ih.2]
        rfl

/-- What an operator that looks at tuples one by one makes of a stream. -/
lemma Carries.through (h : ins.Carries ordered a rows) (hf : kind.Handles engine a output f) :
    (through f ins.failure ins.tuples).Carries ordered output (rows.bind fun given =>
      (given.mapM fun row => kind.onRow engine a row).map List.flatten) where
  schema_eq := schema_through hf _ h.schema_eq
  rows_alike := by
    have hspec := through_spec hf ins.failure h.schema_eq
    have hrows := h.rows_alike
    match rows with
    | none =>
      split at hspec
      · rwa [← hspec.1] at hrows
      · exact hspec
    | some given =>
      obtain ⟨hfailure, halike⟩ := hrows
      rw [Option.bind_some]
      match hmade : given.mapM fun row => kind.onRow engine a row with
      | some made =>
        obtain ⟨made', hmade', halike'⟩ := halike.exists_mapM hmade
        rw [hmade'] at hspec
        exact ⟨hspec.1.trans hfailure, hspec.2 ▸ halike'⟩
      | none =>
        split at hspec
        · next made' hmade' =>
          obtain ⟨made, hsome, -⟩ := halike.symm.exists_mapM hmade'
          rw [hmade] at hsome
          cases hsome
        · exact hspec

lemma Carries.join {s : Joining} (h : ins.Carries ordered s.inner rows)
    (h' : outs.Carries ordered s.outer rows') (hgives : s.Gives output [] ins outs out)
    (hordered : ¬ordered) :
    out.Carries ordered output (rows.bind fun inners => rows'.bind fun outers =>
      some (inners.flatMap (s.pairing.pairs s.inner s.outer outers))) where
  schema_eq := hgives.schema_eq
  rows_alike := by
    have hinner := h.rows_alike
    have houter := h'.rows_alike
    have hfailure := hgives.failure_iff
    match rows, rows' with
    | none, _ => exact fun hnone => hinner (hfailure.mp hnone).1
    | some _, none => exact fun hnone => houter (hfailure.mp hnone).2
    | some inners, some outers =>
      obtain ⟨hinner, hinners, -⟩ := hinner
      obtain ⟨houter, houters, -⟩ := houter
      have hnone := hfailure.mpr ⟨hinner, houter⟩
      refine ⟨hnone, (hgives.perm hnone).trans ?_, fun h => (hordered h).elim⟩
      exact s.pairs_perm hinners houters

end Stream

end Dataflow
