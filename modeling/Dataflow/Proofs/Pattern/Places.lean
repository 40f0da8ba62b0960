import Dataflow.Pattern.Search
import Dataflow.Proofs.Matching.Slices

/-!
# Where patterns match

What is given of a match are the places before and behind some characters of the text.
-/

namespace Dataflow

namespace Program

variable {p : Program} {before : Option Char} {cs : List Char} {start stop : Nat}

lemma exists_slice?_take {text : String} {done : List Char} (htext : text.toList = done ++ cs)
    (hle : start ≤ stop) : ∃ part, slice? text (byteLength done + byteLength (cs.take start))
      (byteLength done + byteLength (cs.take stop)) = some part := by
  have hstop : cs.take stop = cs.take start ++ (cs.drop start).take (stop - start) := by
    rw [← List.take_add, Nat.add_sub_cancel' hle]
  have hcut : text.toList = done ++ cs.take start ++ (cs.drop start).take (stop - start) ++
      cs.drop stop := by
    rw [List.append_assoc done, ← hstop, List.append_assoc, List.take_append_drop, htext]
  rw [hstop, byteLength_append, ← Nat.add_assoc, ← byteLength_append done]
  exact ⟨_, slice?_eq_of_toList hcut⟩

/-- The matches in the rest of a text are parts of the text. -/
lemma exists_slice?_findAllFrom {text : String} {fuel : Nat} (done : List Char)
    (htext : text.toList = done ++ cs) : ∀ m ∈ p.findAllFrom fuel before (byteLength done) cs,
      ∃ part, slice? text m.1 m.2 = some part := by
  induction fuel generalizing before done cs with
  | zero => exact List.forall_mem_nil _
  | succ fuel ih =>
    rw [findAllFrom]
    match hfind : p.find before cs with
    | none => exact List.forall_mem_nil _
    | some (start, stop) =>
      have hrest (before : Option Char) (count : Nat) :
          ∀ m ∈ p.findAllFrom fuel before (byteLength done + byteLength (cs.take count))
            (cs.drop (cs.take count).length), ∃ part, slice? text m.1 m.2 = some part := by
        rw [← byteLength_append]
        refine ih _ ?_
        rw [List.append_assoc, List.prefix_iff_eq_append.mp (List.take_prefix count cs), htext]
      dsimp only
      split_ifs with hlt
      · exact List.forall_mem_cons.mpr ⟨exists_slice?_take htext hlt.le, hrest _ _⟩
      · exact hrest _ _

end Program

/-- The engine for the usual patterns reports matches in bounds. -/
theorem Pattern.engine_inBounds : Pattern.engine.InBounds := by
  intro pattern search h text m hm
  simp only [engine] at h
  split at h
  · cases h
    exact Program.exists_slice?_findAllFrom [] rfl m hm
  · cases h

end Dataflow
