import IrExcerpt.Proofs.IgnoredFunctions
import IrExcerpt.Proofs.Lockstep

/-!
# An expansion can be resumed

A selection that has been expanded is a selection again, with names at many
depths and external names already in it. Expanding it once more starts over at
depth zero, and walks through layers that are complete before it comes to the
first one that is not.

What carries the argument is that the search is right about distances wherever
it starts from. A round inside the part that is complete has nothing to add: who
is called there is selected, ignored or known as external (`Layered.regrown`).
So such a round keeps the selection right up to its old distance, and from the
last complete layer on it is the search that `Layered.rounds` speaks about. An
empty layer stops the second run, perhaps long before the first run stopped, and
is no loss: behind a distance that nobody is at there is nobody.
-/

namespace IrExcerpt

open Expansion

variable {c : Criteria} {doc : Document} {start : String → Prop}

namespace Layered

variable {k j : Nat} {s s' : Selection}

/-- To be right up to a distance is to be one selection. -/
theorem same (h : Layered c doc start k s) (h' : Layered c doc start k s') :
    s.Same s' := by
  have hdepth : ∀ name, s'.depth? name = s.depth? name := by
    intro name
    refine Option.ext fun n => ?_
    rw [h'.depths, h.depths]
  refine ⟨hdepth, NameSet.eq_of_mem_iff s'.ordered s.ordered fun g => ?_⟩
  rw [h'.external, h.external]
  simp only [hdepth]

theorem atDepth_eq_nil_iff (h : Layered c doc start k s) (hj : j ≤ k) :
    s.atDepth j = [] ↔ ∀ g, ¬ AtDistance c doc start j g := by
  rw [List.eq_nil_iff_forall_not_mem]
  simp only [Selection.mem_atDepth, h.depths, hj, true_and]

/-- Following the calls of a layer before the last once more adds nothing. -/
theorem regrown (hnodup : doc.names.Nodup) (h : Layered c doc start k s)
    (hj : j < k)
    (hgrown : Grown c doc (j + 1) (fun g => ∃ f ∈ s.atDepth j,
      c.Admits doc f ∧ g ∈ doc.calleesOf f) s s') : s.Same s' := by
  have hcalled : ∀ {g}, (∃ f ∈ s.atDepth j, c.Admits doc f ∧
      g ∈ doc.calleesOf f) → ∃ f, s.depth? f = some j ∧ doc.Calls f g := by
    rintro g ⟨f, hf, -, hg⟩
    exact ⟨f, Selection.mem_atDepth.1 hf, (Document.mem_calleesOf hnodup).1 hg⟩
  constructor
  · intro g
    refine Option.ext fun n => ?_
    rw [hgrown.depths]
    refine ⟨?_, .inl⟩
    rintro (hs | ⟨hnone, -, hcall, hadm⟩)
    · exact hs
    · obtain ⟨f, hf, hfg⟩ := hcalled hcall
      -- `g` is called from distance `j`, so it is no farther than `j + 1`.
      obtain ⟨m, hm, hdist⟩ := exists_atDistance
        (reached_succ.2 ⟨⟨f, ((h.depths f j).1 hf).2.1, hfg⟩, hadm⟩)
      have hfar := (h.none_iff g).1 hnone m (by omega)
      exact absurd hdist hfar
  · refine NameSet.eq_of_mem_iff s'.ordered s.ordered fun g => ?_
    rw [hgrown.external]
    refine ⟨?_, .inl⟩
    rintro (hs | ⟨hcall, hundef, hkept, -⟩)
    · exact hs
    · obtain ⟨f, hf, hfg⟩ := hcalled hcall
      exact (h.external g).2 ⟨hundef, hkept, f, j, hf, hj, hfg⟩

/-- Behind an empty layer all layers are empty. -/
theorem atDepth_eq_nil_of_gap (h : Layered c doc start k s) (hj : j ≤ k)
    (hgap : s.atDepth j = []) : s.atDepth k = [] :=
  (h.atDepth_eq_nil_iff (Nat.le_refl k)).2
    (not_atDistance_of_gap ((h.atDepth_eq_nil_iff hj).1 hgap) hj)

/-- An empty layer inside the part that is complete leaves nothing to search. -/
theorem of_inner_gap (h : Layered c doc start k s) (hj : j ≤ k)
    (hgap : s.atDepth j = []) (n : Nat) : Layered c doc start (max k n) s :=
  h.of_gap (h.atDepth_eq_nil_of_gap hj hgap) (Nat.le_max_left k n)

/-- A search that starts at any layer of the complete part ends with a selection
that is right up to the old limit and up to its own. -/
theorem resume (hnodup : doc.names.Nodup) (left : Nat) {graph : CallGraph}
    (hgraph : graph.Faithful) (hdoc : graph.document = doc)
    (h : Layered c doc start k s) (hj : j ≤ k) :
    Layered c doc start (max k (j + left))
      (Expansion.rounds c left j graph s).selection := by
  induction left generalizing j graph s with
  | zero =>
      rw [Nat.add_zero, Nat.max_eq_left hj]
      exact h
  | succ left ih =>
      rcases Nat.lt_or_eq_of_le hj with hlt | rfl
      · unfold Expansion.rounds
        split
        · next hgap => exact h.of_inner_gap hj hgap _
        · obtain ⟨hgrown, hfaithful, hsame⟩ :=
            grown_layer (c := c) (j + 1) graph hgraph s (s.atDepth j)
          rw [hdoc] at hgrown hsame
          have hkept := h.of_same (h.regrown hnodup hlt hgrown)
          rw [show j + (left + 1) = j + 1 + left by omega]
          exact ih hfaithful hsame hkept hlt
      · rw [Nat.max_eq_right (Nat.le_add_right j _)]
        exact h.rounds hnodup (left + 1) hgraph hdoc

end Layered

/-- An expansion can be resumed and repeated. Expanding a direct selection up to
depth `k` and then the result up to depth `m` gives the depths and the external
names that one expansion up to the larger of the two gives, whether the second
run asks the graph that the first one has left or another graph of the
document. -/
theorem expand_resumed {text : String} {doc : Document}
    (h : Document.parse text = .ok doc) (c : Criteria) (limit : Nat)
    (asked again : List String) (k m : Nat) :
    let graph := CallGraph.afterAsking doc asked
    let direct := (c.select doc limit).1
    let first := c.expand graph direct k
    let once := c.expand graph direct (max k m)
    ∀ graph', graph' = first.graph ∨ graph' = CallGraph.afterAsking doc again →
      let resumed := c.expand graph' first.selection m
      (∀ name, resumed.selection.depth? name = once.selection.depth? name) ∧
        resumed.selection.external = once.selection.external := by
  intro graph direct first once graph' hgraph' resumed
  have hnodup := Document.names_nodup h
  obtain ⟨hfaithful, hdoc⟩ := CallGraph.afterAsking_spec doc asked
  have hsound : graph'.Faithful ∧ graph'.document = doc := by
    rcases hgraph' with rfl | rfl
    · obtain ⟨hlater, hsame⟩ := faithful_rounds c k 0 hfaithful direct
      exact ⟨hlater, hsame.trans hdoc⟩
    · exact CallGraph.afterAsking_spec doc again
  have hfirst := layered_expand hnodup c limit hfaithful hdoc k
  have honce := layered_expand hnodup c limit hfaithful hdoc (max k m)
  have hresumed := hfirst.resume hnodup m hsound.1 hsound.2 (Nat.zero_le k)
  rw [Nat.zero_add] at hresumed
  have hsame := honce.same hresumed
  exact ⟨hsame.depth?, hsame.external⟩

theorem expand_resumed_sample :
    let c : Criteria := ⟨["a"], .empty, .empty, .empty⟩
    let graph := CallGraph.afterAsking Document.sample ["b"]
    let direct := (c.select Document.sample 10).1
    let first := c.expand graph direct 1
    let resumed := c.expand first.graph first.selection 2
    Document.parse Document.sampleText = .ok Document.sample ∧
      first.selection.external = [] ∧
      resumed.selection.depth? "b" = some 1 ∧
      resumed.selection.external = ["p"] := by
  intro c graph direct first resumed
  obtain ⟨hdepth, hexternal⟩ := expand_resumed Document.parse_sampleText c 10
    ["b"] [] 1 2 first.graph (.inl rfl)
  refine ⟨Document.parse_sampleText, by decide +kernel, ?_, ?_⟩
  · exact (hdepth "b").trans (by decide +kernel)
  · exact hexternal.trans (by decide +kernel)

end IrExcerpt
