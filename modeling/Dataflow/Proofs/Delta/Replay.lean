import Mathlib.Data.Finset.Basic
import Dataflow.Delta.Tracker
import Dataflow.Proofs.Lists
import Dataflow.Proofs.Schema

/-!
# Changes lead from snapshot to snapshot

A change says exactly what happened between two snapshots: whoever takes out what is retracted and
puts in what is inserted has the next snapshot, and nothing is taken out or put in for nothing.
-/

namespace Dataflow

section Flags

variable {t : Tuple} {insertion : Bool}

lemma Schema.exists_flagged {s : Schema} (h : s.contains flagName = false) :
    ∃ s' : Schema, s.flagged = .ok s' ∧ s'.attributes = flagAttribute :: s.attributes := by
  have hnot : flagName ∉ s.attributes.map (·.name) := by
    rw [← Bool.not_eq_true, contains_iff] at h
    simpa using h
  have hnodup : ((flagAttribute :: s.attributes).map (·.name)).Nodup :=
    List.nodup_cons.mpr ⟨hnot, s.nodup_names⟩
  obtain ⟨s', hs'⟩ := exists_attributes_eq hnodup
  exact ⟨s', ofAttributes_eq_ok_iff.mpr hs', hs'⟩

/-- A tuple behind a flag tells the flag and the tuple. -/
def Tuple.Flags (t : Tuple) (insertion : Bool) (change : Tuple) : Prop :=
  change.isInsertion = .ok insertion ∧ change.stripFlag = .ok t

/-- A tuple without the flag can be put behind it, and both can be read again. -/
lemma Tuple.exists_flag (h : t.schema.contains flagName = false) (insertion : Bool) :
    ∃ change, t.flag insertion = .ok change ∧ t.Flags insertion change := by
  obtain ⟨s, hflagged, hs⟩ := Schema.exists_flagged h
  have hfits : List.Forall₂ (fun own field => field.fits own.type = true) s.attributes
      (.boolean insertion :: t.fields) := by
    rw [hs]
    exact .cons rfl t.fits
  obtain ⟨change, hbind, hschema, hfields⟩ := exists_bind_eq_ok hfits
  have hmarked : change.isFlagged = true := by
    rw [isFlagged, hschema, hs]
    exact beq_self_eq_true flagName
  refine ⟨change, by rw [flag, hflagged]; exact hbind, ?_, ?_⟩
  · have hindex : change.schema.indexOf? flagName = some 0 := by
      rw [Schema.indexOf?_eq_some_iff, hschema, hs]
      exact ⟨flagAttribute, rfl, rfl⟩
    rw [isInsertion, if_pos hmarked, getBoolean, fieldAs, field, hindex, hfields]
    rfl
  · have hplain : Schema.ofAttributes (change.schema.attributes.drop 1) = .ok t.schema := by
      rw [hschema, hs]
      exact Schema.ofAttributes_eq_ok_iff.mpr rfl
    rw [stripFlag, if_pos hmarked, hplain, hfields]
    exact bind_eq_ok_iff.mpr ⟨rfl, rfl⟩

lemma Tuple.exists_mapM_flag {ts : List Tuple}
    (h : ∀ t ∈ ts, t.schema.contains flagName = false) (insertion : Bool) :
    ∃ changes, ts.mapM (flag insertion) = .ok changes ∧
      List.Forall₂ (Flags · insertion) ts changes := by
  induction ts with
  | nil => exact ⟨[], rfl, .nil⟩
  | cons t ts ih =>
    obtain ⟨ht, hts⟩ := List.forall_mem_cons.mp h
    obtain ⟨change, hchange, hflags⟩ := exists_flag ht insertion
    obtain ⟨changes, hchanges, hall⟩ := ih hts
    refine ⟨change :: changes, ?_, .cons hflags hall⟩
    rw [List.mapM_cons, hchange, hchanges]
    rfl

end Flags

/-- Changes lead from one set of tuples to another. Each of them matters: a tuple that is retracted
is there, and a tuple that is inserted is not. -/
inductive Leads : Finset Tuple → List Tuple → Finset Tuple → Prop
  | nil (s : Finset Tuple) : Leads s [] s
  | retract {s s' : Finset Tuple} {t change : Tuple} {changes : List Tuple}
    (hflags : t.Flags false change) (hmem : t ∈ s) (hrest : Leads (s.erase t) changes s') :
    Leads s (change :: changes) s'
  | insert {s s' : Finset Tuple} {t change : Tuple} {changes : List Tuple}
    (hflags : t.Flags true change) (hnot : t ∉ s) (hrest : Leads (insert t s) changes s') :
    Leads s (change :: changes) s'

namespace Leads

variable {s s' s'' : Finset Tuple} {changes changes' ts : List Tuple}

lemma append (h : Leads s changes s') (h' : Leads s' changes' s'') :
    Leads s (changes ++ changes') s'' := by
  induction h with
  | nil => exact h'
  | retract hflags hmem _ ih => exact .retract hflags hmem (ih h')
  | insert hflags hnot _ ih => exact .insert hflags hnot (ih h')

lemma of_retractions (h : List.Forall₂ (Tuple.Flags · false) ts changes) (hnodup : ts.Nodup)
    (hmem : ∀ t ∈ ts, t ∈ s) : Leads s changes (s \ ts.toFinset) := by
  induction h generalizing s with
  | nil => simpa using nil s
  | @cons t change ts changes hflags hrest ih =>
    obtain ⟨hnot, hnodup⟩ := List.nodup_cons.mp hnodup
    obtain ⟨ht, hts⟩ := List.forall_mem_cons.mp hmem
    refine .retract hflags ht ?_
    rw [List.toFinset_cons, Finset.sdiff_insert, ← Finset.erase_sdiff_comm]
    exact ih hnodup fun u hu => Finset.mem_erase.mpr ⟨fun heq => hnot (heq ▸ hu), hts u hu⟩

lemma of_insertions (h : List.Forall₂ (Tuple.Flags · true) ts changes) (hnodup : ts.Nodup)
    (hnot : ∀ t ∈ ts, t ∉ s) : Leads s changes (s ∪ ts.toFinset) := by
  induction h generalizing s with
  | nil => simpa using nil s
  | @cons t change ts changes hflags hrest ih =>
    obtain ⟨hnew, hnodup⟩ := List.nodup_cons.mp hnodup
    obtain ⟨ht, hts⟩ := List.forall_mem_cons.mp hnot
    refine .insert hflags ht ?_
    rw [List.toFinset_cons, Finset.union_insert, ← Finset.insert_union]
    refine ih hnodup fun u hu => ?_
    rw [Finset.mem_insert, not_or]
    exact ⟨fun heq => hnew (heq ▸ hu), hts u hu⟩

end Leads

namespace Delta

variable {old new : List Tuple}

/-- A change with nothing in it that is not needed to come from one snapshot to another, in the
orders of the snapshots. -/
structure Minimal (d : Delta) (old new : List Tuple) : Prop where
  apart : ∀ t ∈ d.retractions, t ∉ d.insertions
  needed : ∀ t ∈ d.retractions ++ d.insertions, ¬(t ∈ old ∧ t ∈ new)
  retractions_sublist : d.retractions.Sublist old
  insertions_sublist : d.insertions.Sublist new

lemma minimal_between (old new : List Tuple) : (between old new).Minimal old new where
  apart t ht ht' := (mem_retractions_between.mp ht).2 (mem_insertions_between.mp ht').1
  needed t ht := by
    rintro ⟨hold, hnew⟩
    rcases List.mem_append.mp ht with ht | ht
    · exact (mem_retractions_between.mp ht).2 hnew
    · exact (mem_insertions_between.mp ht).2 hold
  retractions_sublist := List.filter_sublist
  insertions_sublist := List.filter_sublist

/-- The change between two snapshots can be flagged, and leads from the one to the other. -/
theorem exists_flagged_between (hold : old.Nodup) (hnew : new.Nodup)
    (hplain : ∀ t ∈ old ++ new, t.schema.contains flagName = false) :
    ∃ changes, (between old new).flagged = .ok changes ∧
      Leads old.toFinset changes new.toFinset := by
  have hretracted (t : Tuple) (ht : t ∈ (between old new).retractions) : t ∈ old :=
    (mem_retractions_between.mp ht).1
  have hinserted (t : Tuple) (ht : t ∈ (between old new).insertions) : t ∈ new :=
    (mem_insertions_between.mp ht).1
  obtain ⟨left, hleft, hflags⟩ := Tuple.exists_mapM_flag
    (fun t ht => hplain t (List.mem_append_left _ (hretracted t ht))) false
  obtain ⟨joined, hjoined, hflags'⟩ := Tuple.exists_mapM_flag
    (fun t ht => hplain t (List.mem_append_right _ (hinserted t ht))) true
  refine ⟨left ++ joined, by rw [flagged, hleft, hjoined]; rfl, ?_⟩
  have hkept := Leads.of_retractions (s := old.toFinset) hflags (hold.filter _)
    fun t ht => List.mem_toFinset.mpr (hretracted t ht)
  have hall := hkept.append (Leads.of_insertions hflags' (hnew.filter _) fun t ht => by
    rw [Finset.mem_sdiff, List.mem_toFinset]
    exact fun hmem => (mem_insertions_between.mp ht).2 hmem.1)
  have hset : old.toFinset \ (between old new).retractions.toFinset ∪
      (between old new).insertions.toFinset = new.toFinset := by
    ext t
    simp only [Finset.mem_union, Finset.mem_sdiff, List.mem_toFinset, mem_retractions_between,
      mem_insertions_between]
    tauto
  rwa [hset] at hall

end Delta

namespace Tracker

variable {k : Tracker} {rounds : List (Nat × List Tuple)}

/-- The changes to snapshots that are made at some times, one after another. -/
def deltas (k : Tracker) : List (Nat × List Tuple) → List Delta
  | [] => []
  | (now, snapshot) :: rounds =>
    let (delta, k) := k.recompute now snapshot
    delta :: k.deltas rounds

lemma deltas_cons (now : Nat) (snapshot : List Tuple) :
    k.deltas ((now, snapshot) :: rounds) =
      .between k.previous snapshot :: (k.recompute now snapshot).2.deltas rounds :=
  rfl

/-- Whatever the last snapshot was, the changes can be flagged and lead from snapshot to
snapshot. -/
lemma exists_flagged_deltas (hprevious : k.previous.Nodup)
    (hnodup : ∀ round ∈ rounds, round.2.Nodup)
    (hplain : ∀ t ∈ k.previous, t.schema.contains flagName = false)
    (hplains : ∀ round ∈ rounds, ∀ t ∈ round.2, t.schema.contains flagName = false) :
    ∃ flagged, (k.deltas rounds).mapM Delta.flagged = .ok flagged ∧
      ∀ n old new, (k.previous :: rounds.map Prod.snd)[n]? = some old →
        (rounds.map Prod.snd)[n]? = some new →
          ∃ d, (k.deltas rounds)[n]? = some d ∧ d.Minimal old new ∧
            Leads k.previous.toFinset (flagged.take (n + 1)).flatten new.toFinset := by
  induction rounds generalizing k with
  | nil => exact ⟨[], rfl, nofun⟩
  | cons round rounds ih =>
    obtain ⟨now, snapshot⟩ := round
    obtain ⟨hsnapshot, hnodup⟩ := List.forall_mem_cons.mp hnodup
    obtain ⟨hfree, hplains⟩ := List.forall_mem_cons.mp hplains
    obtain ⟨changes, hchanges, hleads⟩ :=
      Delta.exists_flagged_between hprevious hsnapshot (List.forall_mem_append.mpr ⟨hplain, hfree⟩)
    obtain ⟨flagged, hflagged, hrest⟩ :=
      ih (k := (k.recompute now snapshot).2) hsnapshot hnodup hfree hplains
    refine ⟨changes :: flagged, ?_, fun n old new hold hnew => ?_⟩
    · rw [deltas_cons, List.mapM_cons, hchanges, hflagged]
      rfl
    · rw [deltas_cons]
      cases n with
      | zero =>
        cases hold
        cases hnew
        exact ⟨_, rfl, Delta.minimal_between .., by simpa using hleads⟩
      | succ n =>
        obtain ⟨d, hd, hminimal, hlast⟩ := hrest n old new hold hnew
        exact ⟨d, hd, hminimal, hleads.append hlast⟩

/-- A new tracker is given snapshots without repetitions, of tuples without the flag. All changes
that it gives can be flagged, and they are minimal. Whoever does what they say, with nothing in the
beginning, has after each of them exactly the snapshot that it was given for. -/
theorem deltas_lead_to_snapshots (interval : Nat) (hnodup : ∀ round ∈ rounds, round.2.Nodup)
    (hplain : ∀ round ∈ rounds, ∀ t ∈ round.2, t.schema.contains flagName = false) :
    ∃ flagged, (deltas { interval } rounds).mapM Delta.flagged = .ok flagged ∧
      ∀ n old new, ([] :: rounds.map Prod.snd)[n]? = some old →
        (rounds.map Prod.snd)[n]? = some new →
          ∃ d, (deltas { interval } rounds)[n]? = some d ∧ d.Minimal old new ∧
            Leads ∅ (flagged.take (n + 1)).flatten new.toFinset :=
  exists_flagged_deltas (k := { interval }) List.nodup_nil hnodup nofun hplain

/-- A letter as a tuple. -/
def letter (name : String) : Tuple :=
  ⟨⟨[⟨"letter", .string⟩], rfl⟩, [.string name], rfl⟩

/-- Letters at three times. One of them leaves and comes back. -/
def letters : List (Nat × List Tuple) :=
  [(7, ["A", "B", "C"].map letter), (7, ["C", "D", "B"].map letter), (3, ["A", "C"].map letter)]

/-- At the third time the letters that left are taken out in the order in which they were shown, and
then there is what is shown. -/
theorem letters_lead_to_last : ∃ flagged,
    (deltas { interval := 500 } letters).mapM Delta.flagged = .ok flagged ∧
    (deltas { interval := 500 } letters)[2]? =
      some ⟨["D", "B"].map letter, ["A"].map letter⟩ ∧
    Leads ∅ flagged.flatten {letter "A", letter "C"} := by
  have hnodup : ∀ round ∈ letters, round.2.Nodup := by decide
  obtain ⟨flagged, hflagged, hall⟩ := deltas_lead_to_snapshots 500 hnodup (by decide)
  obtain ⟨d, -, -, hlast⟩ := hall 2 _ _ rfl rfl
  have hlength : flagged.length = 3 := (mapM_eq_ok_iff.mp hflagged).length_eq.symm
  rw [List.take_of_length_le hlength.le] at hlast
  exact ⟨flagged, hflagged, by decide, by simpa using hlast⟩

end Tracker

end Dataflow
