import IrExcerpt.Proofs.Calls
import IrExcerpt.Proofs.DirectSelection
import IrExcerpt.Selection.Expansion
import Mathlib.Order.Bounds.Basic
import Mathlib.Order.Nat

/-!
# Expansion computes call distances

The functions of a document that are not ignored form a graph, with an edge
from a function to each function it calls. Expansion is breadth-first search in
this graph: the depth that a name comes in at is the length of the shortest path
of calls that leads to it from the direct selection.

The argument has two halves. The first is about paths alone: a function is at
distance `k + 1` exactly when a function at distance `k` calls it and it is at no
smaller distance (`atDistance_succ`). The second is about the program: following
the calls of some callers inserts exactly the callees that are new, defined and
not ignored, and marks as external exactly those that are defined nowhere
(`Grown`). Put together, a selection that is right up to distance `k` becomes one
that is right up to `k + 1` (`Layered`), and a distance that nobody is at is
never left, so the search may stop there.
-/

namespace IrExcerpt

/-! ## Paths of calls -/

/-- The functions that expansion goes through: defined and not ignored. -/
def Criteria.Admits (c : Criteria) (doc : Document) (f : String) : Prop :=
  doc.contains f = true ∧ c.ignores f = false

/-- A path of so many calls among the functions that `c` admits. -/
inductive CallPath (c : Criteria) (doc : Document) :
    Nat → String → String → Prop
  | refl {f : String} (hf : c.Admits doc f) : CallPath c doc 0 f f
  | call {n : Nat} {f g h : String} (path : CallPath c doc n f g)
      (hcall : doc.Calls g h) (hh : c.Admits doc h) : CallPath c doc (n + 1) f h

variable {c : Criteria} {doc : Document} {start : String → Prop}

theorem CallPath.admits {n : Nat} {f g : String} (path : CallPath c doc n f g) :
    c.Admits doc g := by
  cases path with
  | refl hf => exact hf
  | call _ _ hh => exact hh

/-- A path of `n` calls leads to `g` from one of the starting names. -/
def Reached (c : Criteria) (doc : Document) (start : String → Prop) (n : Nat)
    (g : String) : Prop :=
  ∃ f, start f ∧ CallPath c doc n f g

/-- The shortest path to `g` from the starting names has `n` calls. -/
def AtDistance (c : Criteria) (doc : Document) (start : String → Prop) (n : Nat)
    (g : String) : Prop :=
  IsLeast {m | Reached c doc start m g} n

theorem reached_zero {g : String} :
    Reached c doc start 0 g ↔ start g ∧ c.Admits doc g := by
  constructor
  · rintro ⟨f, hf, path⟩
    cases path with
    | refl hadm => exact ⟨hf, hadm⟩
  · rintro ⟨hg, hadm⟩
    exact ⟨g, hg, .refl hadm⟩

theorem reached_succ {n : Nat} {h : String} :
    Reached c doc start (n + 1) h ↔
      (∃ g, Reached c doc start n g ∧ doc.Calls g h) ∧ c.Admits doc h := by
  constructor
  · rintro ⟨f, hf, path⟩
    cases path with
    | call path hcall hadm => exact ⟨⟨_, ⟨f, hf, path⟩, hcall⟩, hadm⟩
  · rintro ⟨⟨g, ⟨f, hf, path⟩, hcall⟩, hadm⟩
    exact ⟨f, hf, .call path hcall hadm⟩

theorem AtDistance.admits {n : Nat} {g : String}
    (h : AtDistance c doc start n g) : c.Admits doc g := by
  obtain ⟨f, -, path⟩ := h.1
  exact path.admits

theorem AtDistance.unique {n m : Nat} {g : String}
    (hn : AtDistance c doc start n g) (hm : AtDistance c doc start m g) :
    n = m :=
  IsLeast.unique hn hm

theorem exists_atDistance {m : Nat} {g : String}
    (h : Reached c doc start m g) : ∃ n ≤ m, AtDistance c doc start n g := by
  classical
  have hex : ∃ m, Reached c doc start m g := ⟨m, h⟩
  exact ⟨Nat.find hex, Nat.find_min' hex h, Nat.find_spec hex,
    fun _ hn => Nat.find_min' hex hn⟩

theorem atDistance_zero {g : String} :
    AtDistance c doc start 0 g ↔ start g ∧ c.Admits doc g :=
  ⟨fun h => reached_zero.1 h.1,
    fun h => ⟨reached_zero.2 h, fun _ _ => Nat.zero_le _⟩⟩

/-- Behind the functions at one distance come those that they call and that are
not nearer. -/
theorem atDistance_succ {k : Nat} {h : String} :
    AtDistance c doc start (k + 1) h ↔
      (∃ g, AtDistance c doc start k g ∧ doc.Calls g h) ∧ c.Admits doc h ∧
        ∀ j ≤ k, ¬ AtDistance c doc start j h := by
  constructor
  · intro hdist
    obtain ⟨⟨g, hg, hcall⟩, hadm⟩ := reached_succ.1 hdist.1
    refine ⟨⟨g, ⟨hg, fun m hm => ?_⟩, hcall⟩, hadm, fun j hj hnear => ?_⟩
    · have hthrough : Reached c doc start (m + 1) h :=
        reached_succ.2 ⟨⟨g, hm, hcall⟩, hadm⟩
      have := hdist.2 hthrough
      omega
    · have := hdist.unique hnear
      omega
  · rintro ⟨⟨g, hg, hcall⟩, hadm, hfar⟩
    refine ⟨reached_succ.2 ⟨⟨g, hg.1, hcall⟩, hadm⟩, fun m hm => ?_⟩
    obtain ⟨n, hn, hdist⟩ := exists_atDistance hm
    by_contra hlt
    exact hfar n (by omega) hdist

/-- A distance that nobody is at is never left. -/
theorem not_atDistance_of_gap {k : Nat}
    (hgap : ∀ g, ¬ AtDistance c doc start k g) {n : Nat} (hn : k ≤ n)
    (g : String) : ¬ AtDistance c doc start n g := by
  induction n, hn using Nat.le_induction generalizing g with
  | base => exact hgap g
  | succ n _ ih =>
      intro hdist
      obtain ⟨⟨f, hf, -⟩, -, -⟩ := atDistance_succ.1 hdist
      exact ih f hf

/-! ## One round -/

/-- What following some calls on the way to `depth` does to a selection: of the
names that are called, the new ones that are admitted come in at `depth`, and
the new ones that have no definition are known as external. -/
structure Grown (c : Criteria) (doc : Document) (depth : Nat)
    (called : String → Prop) (s s' : Selection) : Prop where
  depths : ∀ g n, s'.depth? g = some n ↔
    s.depth? g = some n ∨
      s.depth? g = none ∧ n = depth ∧ called g ∧ c.Admits doc g
  external : ∀ g, g ∈ s'.external ↔
    g ∈ s.external ∨ called g ∧ doc.contains g = false ∧
      c.ignores g = false ∧ s.depth? g = none

namespace Grown

theorem none_iff {depth : Nat} {called : String → Prop} {s s' : Selection}
    (h : Grown c doc depth called s s') (g : String) :
    s'.depth? g = none ↔
      s.depth? g = none ∧ ¬ (called g ∧ c.Admits doc g) := by
  rw [Option.eq_none_iff_forall_ne_some, Option.eq_none_iff_forall_ne_some]
  constructor
  · intro hnone
    have hold : ∀ n, s.depth? g ≠ some n := fun n hn =>
      hnone n ((h.depths g n).2 (.inl hn))
    refine ⟨hold, fun hcall => hnone depth ((h.depths g depth).2 (.inr ?_))⟩
    exact ⟨Option.eq_none_iff_forall_ne_some.2 hold, rfl, hcall⟩
  · rintro ⟨hold, hcall⟩ n hn
    rcases (h.depths g n).1 hn with hs | ⟨-, -, hnew⟩
    · exact hold n hs
    · exact hcall hnew

theorem refl (depth : Nat) (s : Selection) :
    Grown c doc depth (fun _ => False) s s :=
  ⟨fun _ _ => by simp, fun _ => by simp⟩

/-- Following some calls and then others is following all of them. -/
theorem trans {depth : Nat} {called₁ called₂ : String → Prop}
    {s s' s'' : Selection} (h₁ : Grown c doc depth called₁ s s')
    (h₂ : Grown c doc depth called₂ s' s'') :
    Grown c doc depth (fun g => called₁ g ∨ called₂ g) s s'' := by
  constructor
  · intro g n
    rw [h₂.depths, h₁.none_iff, h₁.depths]
    by_cases hone : called₁ g ∧ c.Admits doc g <;> tauto
  · intro g
    rw [h₂.external, h₁.external, h₁.none_iff]
    -- A name without a definition is not admitted, so it was not inserted.
    have hout : doc.contains g = false → ¬ c.Admits doc g := by
      rintro hundef ⟨hdef, -⟩
      rw [hundef] at hdef
      cases hdef
    tauto

theorem congr {depth : Nat} {called₁ called₂ : String → Prop}
    {s s' : Selection} (h : Grown c doc depth called₁ s s')
    (hcalled : ∀ g, called₁ g ↔ called₂ g) :
    Grown c doc depth called₂ s s' := by
  have heq : called₁ = called₂ := funext fun g => propext (hcalled g)
  exact heq ▸ h

/-- A callee that is selected, ignored or known as external changes nothing. -/
theorem unchanged {depth : Nat} {callee : String} {s : Selection}
    (hdepth : s.depth? callee = none → ¬ c.Admits doc callee)
    (hext : s.depth? callee = none → doc.contains callee = false →
      c.ignores callee = false → callee ∈ s.external) :
    Grown c doc depth (· = callee) s s := by
  constructor
  · intro g n
    constructor
    · exact .inl
    · rintro (h | ⟨hnone, -, rfl, hadm⟩)
      · exact h
      · exact absurd hadm (hdepth hnone)
  · intro g
    constructor
    · exact .inl
    · rintro (h | ⟨rfl, hundef, hkept, hnone⟩)
      · exact h
      · exact hext hnone hundef hkept

theorem insert {depth : Nat} {callee : String} (hadm : c.Admits doc callee)
    (s : Selection) :
    Grown c doc depth (· = callee) s (s.insert callee depth) := by
  constructor
  · intro g n
    rw [Selection.depth?_insert]
    by_cases hg : g = callee
    · subst hg
      cases hs : s.depth? g <;> simp [hadm, eq_comm]
    · cases hs : s.depth? g <;> simp [hg]
  · intro g
    rw [Selection.external_insert]
    constructor
    · exact .inl
    · rintro (h | ⟨rfl, hundef, -⟩)
      · exact h
      · rw [hadm.1] at hundef
        cases hundef

theorem markExternal {depth : Nat} {callee : String} {s : Selection}
    (hundef : doc.contains callee = false) (hkept : c.ignores callee = false)
    (hnew : s.depth? callee = none) :
    Grown c doc depth (· = callee) s (s.markExternal callee) := by
  constructor
  · intro g n
    rw [Selection.depth?_markExternal]
    constructor
    · exact .inl
    · rintro (h | ⟨-, -, rfl, hdef, -⟩)
      · exact h
      · rw [hdef] at hundef
        cases hundef
  · intro g
    rw [Selection.mem_external_markExternal]
    constructor
    · rintro (rfl | h)
      · exact .inr ⟨rfl, hundef, hkept, hnew⟩
      · exact .inl h
    · rintro (h | ⟨rfl, -⟩)
      · exact .inr h
      · exact .inl rfl

end Grown

open Expansion

theorem grown_meet (depth : Nat) (caller : String) (l : Layer)
    (callee : String) :
    Grown c l.graph.document depth (· = callee) l.selection
      (Layer.meet c depth caller l callee).selection := by
  unfold Layer.meet
  split
  · next hsel =>
      obtain ⟨d, hd⟩ := Selection.contains_iff_depth?.1 hsel
      exact .unchanged (by simp [hd]) (by simp [hd])
  · next hsel =>
      have hnew : l.selection.depth? callee = none := by
        simpa [Selection.contains] using hsel
      split
      · next hign =>
          exact .unchanged (by simp [Criteria.Admits, hign]) (by simp [hign])
      · next hign =>
          have hkept : c.ignores callee = false := by simpa using hign
          split
          · next hdef => exact .insert ⟨hdef, hkept⟩ _
          · next hdef =>
              have hundef : l.graph.document.contains callee = false := by
                simpa using hdef
              split
              · next hext =>
                  have hmem : callee ∈ l.selection.external := by
                    simpa [Selection.isExternal] using hext
                  exact .unchanged (by simp [Criteria.Admits, hundef])
                    fun _ _ _ => hmem
              · exact .markExternal hundef hkept hnew

@[simp] theorem graph_meet (depth : Nat) (caller : String) (l : Layer)
    (callee : String) :
    (Layer.meet c depth caller l callee).graph = l.graph := by
  unfold Layer.meet
  repeat' split
  all_goals rfl

/-- Meeting a list of callees, in whatever order. -/
theorem grown_foldl_meet (depth : Nat) (caller : String) (callees : List String)
    (l : Layer) :
    Grown c l.graph.document depth (· ∈ callees) l.selection
        (callees.foldl (Layer.meet c depth caller) l).selection ∧
      (callees.foldl (Layer.meet c depth caller) l).graph = l.graph := by
  induction callees generalizing l with
  | nil => exact ⟨(Grown.refl depth l.selection).congr (by simp), rfl⟩
  | cons callee callees ih =>
      obtain ⟨hrest, hgraph⟩ := ih (Layer.meet c depth caller l callee)
      rw [graph_meet] at hrest hgraph
      refine ⟨((grown_meet depth caller l callee).trans hrest).congr ?_, hgraph⟩
      intro g
      rw [List.mem_cons]

theorem grown_follow (depth : Nat) (l : Layer) (caller : String)
    (hgraph : l.graph.Faithful) :
    Grown c l.graph.document depth
        (fun g => c.Admits l.graph.document caller ∧
          g ∈ l.graph.document.calleesOf caller)
        l.selection (Layer.follow c depth l caller).selection ∧
      (Layer.follow c depth l caller).graph.Faithful ∧
      (Layer.follow c depth l caller).graph.document = l.graph.document := by
  unfold Layer.follow
  split
  · next hgo =>
      have hadm : c.Admits l.graph.document caller := by
        simpa [Criteria.Admits] using hgo
      obtain ⟨hgrown, hsame⟩ := grown_foldl_meet (c := c) depth caller
        (l.graph.callees caller).1 { l with graph := (l.graph.callees caller).2 }
      simp only [CallGraph.document_callees] at hgrown
      simp only []
      rw [hsame]
      refine ⟨hgrown.congr fun g => ?_,
        CallGraph.faithful_callees hgraph caller,
        CallGraph.document_callees l.graph caller⟩
      rw [CallGraph.callees_fst hgraph]
      exact ⟨fun hmem => ⟨hadm, hmem⟩, And.right⟩
  · next hstop =>
      refine ⟨(Grown.refl depth l.selection).congr fun g => ?_, hgraph, rfl⟩
      refine ⟨False.elim, fun ⟨hadm, _⟩ => hstop ?_⟩
      simpa [Criteria.Admits] using hadm

/-- One round follows the calls of all its callers. -/
theorem grown_layer (depth : Nat) (graph : CallGraph)
    (hgraph : graph.Faithful) (s : Selection) (callers : List String) :
    Grown c graph.document depth
        (fun g => ∃ f ∈ callers, c.Admits graph.document f ∧
          g ∈ graph.document.calleesOf f)
        s (layer c depth graph s callers).selection ∧
      (layer c depth graph s callers).graph.Faithful ∧
      (layer c depth graph s callers).graph.document = graph.document := by
  have hrun : ∀ l : Layer, l.graph.Faithful →
      Grown c l.graph.document depth
          (fun g => ∃ f ∈ callers, c.Admits l.graph.document f ∧
            g ∈ l.graph.document.calleesOf f)
          l.selection (callers.foldl (Layer.follow c depth) l).selection ∧
        (callers.foldl (Layer.follow c depth) l).graph.Faithful ∧
        (callers.foldl (Layer.follow c depth) l).graph.document =
          l.graph.document := by
    induction callers with
    | nil =>
        intro l hl
        exact ⟨(Grown.refl depth l.selection).congr (by simp), hl, rfl⟩
    | cons caller callers ih =>
        intro l hl
        obtain ⟨hfirst, hfaithful, hdoc⟩ := grown_follow (c := c) depth l caller hl
        obtain ⟨hrest, hfaithful', hdoc'⟩ := ih _ hfaithful
        rw [hdoc] at hrest hdoc'
        refine ⟨(hfirst.trans hrest).congr fun g => ?_, hfaithful', hdoc'⟩
        simp only [List.mem_cons, exists_eq_or_imp]
  exact hrun ⟨s, graph, 0, 0, []⟩ hgraph

/-! ## All rounds -/

/-- A selection that is right up to distance `k`: it holds the functions at
distance at most `k`, each at its distance, and what those nearer than `k` call
without a definition is external. -/
structure Layered (c : Criteria) (doc : Document) (start : String → Prop)
    (k : Nat) (s : Selection) : Prop where
  depths : ∀ g n, s.depth? g = some n ↔ n ≤ k ∧ AtDistance c doc start n g
  external : ∀ g, g ∈ s.external ↔
    doc.contains g = false ∧ c.ignores g = false ∧
      ∃ f n, s.depth? f = some n ∧ n < k ∧ doc.Calls f g

namespace Layered

theorem none_iff {k : Nat} {s : Selection} (h : Layered c doc start k s)
    (g : String) :
    s.depth? g = none ↔ ∀ j ≤ k, ¬ AtDistance c doc start j g := by
  rw [Option.eq_none_iff_forall_ne_some]
  constructor
  · intro hnone j hj hdist
    exact hnone j ((h.depths g j).2 ⟨hj, hdist⟩)
  · intro hfar n hn
    obtain ⟨hle, hdist⟩ := (h.depths g n).1 hn
    exact hfar n hle hdist

/-- One round takes a selection from one distance to the next. -/
theorem step {k : Nat} {s s' : Selection} (hnodup : doc.names.Nodup)
    (h : Layered c doc start k s)
    (hgrown : Grown c doc (k + 1) (fun g => ∃ f ∈ s.atDepth k,
      c.Admits doc f ∧ g ∈ doc.calleesOf f) s s') :
    Layered c doc start (k + 1) s' := by
  have hcalled : ∀ g, (∃ f ∈ s.atDepth k, c.Admits doc f ∧
      g ∈ doc.calleesOf f) ↔
      ∃ f, AtDistance c doc start k f ∧ doc.Calls f g := by
    intro g
    simp only [Selection.mem_atDepth, h.depths, Document.mem_calleesOf hnodup]
    constructor
    · rintro ⟨f, ⟨-, hdist⟩, -, hcall⟩
      exact ⟨f, hdist, hcall⟩
    · rintro ⟨f, hdist, hcall⟩
      exact ⟨f, ⟨Nat.le_refl k, hdist⟩, hdist.admits, hcall⟩
  have hdepths : ∀ g n, s'.depth? g = some n ↔
      n ≤ k + 1 ∧ AtDistance c doc start n g := by
    intro g n
    rw [hgrown.depths, hcalled, h.depths, h.none_iff]
    constructor
    · rintro (⟨hle, hdist⟩ | ⟨hfar, rfl, hcall, hadm⟩)
      · exact ⟨by omega, hdist⟩
      · exact ⟨Nat.le_refl _, atDistance_succ.2 ⟨hcall, hadm, hfar⟩⟩
    · rintro ⟨hle, hdist⟩
      rcases Nat.lt_or_ge k n with hlt | hge
      · obtain rfl : n = k + 1 := by omega
        obtain ⟨hcall, hadm, hfar⟩ := atDistance_succ.1 hdist
        exact .inr ⟨hfar, rfl, hcall, hadm⟩
      · exact .inl ⟨hge, hdist⟩
  refine ⟨hdepths, fun g => ?_⟩
  rw [hgrown.external, hcalled, h.external]
  constructor
  · rintro (⟨hundef, hkept, f, n, hf, hlt, hcall⟩ | ⟨⟨f, hf, hcall⟩, hundef, hkept, -⟩)
    · obtain ⟨hle, hdist⟩ := (h.depths f n).1 hf
      exact ⟨hundef, hkept, f, n, (hdepths f n).2 ⟨by omega, hdist⟩, by omega,
        hcall⟩
    · exact ⟨hundef, hkept, f, k, (hdepths f k).2 ⟨by omega, hf⟩, by omega,
        hcall⟩
  · rintro ⟨hundef, hkept, f, n, hf, hlt, hcall⟩
    obtain ⟨-, hdist⟩ := (hdepths f n).1 hf
    rcases Nat.lt_or_ge n k with hnk | hge
    · exact .inl ⟨hundef, hkept, f, n, (h.depths f n).2 ⟨by omega, hdist⟩, hnk,
        hcall⟩
    · obtain rfl : n = k := by omega
      refine .inr ⟨⟨f, hdist, hcall⟩, hundef, hkept, (h.none_iff g).2 ?_⟩
      intro j _ hdist
      have hdef := hdist.admits.1
      rw [hundef] at hdef
      cases hdef

/-- Where a distance has nobody, the selection is right for all that follow. -/
theorem of_gap {k n : Nat} {s : Selection} (h : Layered c doc start k s)
    (hgap : s.atDepth k = []) (hkn : k ≤ n) : Layered c doc start n s := by
  have hnobody : ∀ g, ¬ AtDistance c doc start k g := by
    intro g hdist
    have hmem : g ∈ s.atDepth k :=
      Selection.mem_atDepth.2 ((h.depths g k).2 ⟨Nat.le_refl k, hdist⟩)
    rw [hgap] at hmem
    cases hmem
  have hnear : ∀ {m g}, AtDistance c doc start m g → m < k := by
    intro m g hdist
    by_contra hge
    exact not_atDistance_of_gap hnobody (by omega) g hdist
  constructor
  · intro g m
    rw [h.depths]
    exact ⟨fun ⟨hle, hdist⟩ => ⟨by omega, hdist⟩,
      fun ⟨_, hdist⟩ => ⟨(hnear hdist).le, hdist⟩⟩
  · intro g
    rw [h.external]
    constructor
    · rintro ⟨hundef, hkept, f, m, hf, hlt, hcall⟩
      exact ⟨hundef, hkept, f, m, hf, by omega, hcall⟩
    · rintro ⟨hundef, hkept, f, m, hf, -, hcall⟩
      exact ⟨hundef, hkept, f, m, hf, hnear ((h.depths f m).1 hf).2, hcall⟩

/-- The search ends with a selection that is right up to its limit. -/
theorem rounds (hnodup : doc.names.Nodup) (left : Nat) {k : Nat}
    {graph : CallGraph} {s : Selection} (hgraph : graph.Faithful)
    (hdoc : graph.document = doc) (h : Layered c doc start k s) :
    Layered c doc start (k + left)
      (Expansion.rounds c left k graph s).selection := by
  induction left generalizing k graph s with
  | zero => exact h
  | succ left ih =>
      unfold Expansion.rounds
      split
      · next hgap => exact h.of_gap hgap (by omega)
      · obtain ⟨hgrown, hfaithful, hsame⟩ :=
          grown_layer (c := c) (k + 1) graph hgraph s (s.atDepth k)
        rw [hdoc] at hgrown hsame
        rw [show k + (left + 1) = k + 1 + left by omega]
        exact ih hfaithful hsame (h.step hnodup hgrown)

end Layered

/-- A direct selection is right up to distance zero from itself. -/
theorem layered_select (c : Criteria) (doc : Document) (limit : Nat) :
    Layered c doc (fun f => (c.select doc limit).1.contains f = true) 0
      (c.select doc limit).1 := by
  constructor
  · intro g n
    rw [Criteria.depth?_select]
    constructor
    · rintro ⟨hmem, rfl⟩
      obtain ⟨hasked, hkept⟩ := Criteria.mem_candidates.1 hmem
      refine ⟨Nat.le_refl 0, atDistance_zero.2 ⟨Criteria.contains_select.2 hmem, ?_⟩⟩
      exact ⟨Criteria.contains_of_mem_asked hasked, hkept⟩
    · rintro ⟨hle, hdist⟩
      obtain rfl : n = 0 := by omega
      exact ⟨Criteria.contains_select.1 (atDistance_zero.1 hdist).1, rfl⟩
  · intro g
    rw [Criteria.external_select]
    simp

theorem layered_expand {doc : Document} (hnodup : doc.names.Nodup)
    (c : Criteria) (limit : Nat) {graph : CallGraph} (hgraph : graph.Faithful)
    (hdoc : graph.document = doc) (d : Nat) :
    Layered c doc (fun f => (c.select doc limit).1.contains f = true) d
      (c.expand graph (c.select doc limit).1 d).selection := by
  have h := (layered_select c doc limit).rounds hnodup d hgraph hdoc
  rwa [Nat.zero_add] at h

/-- Expansion computes exact call distances. A name is selected up to depth `d`
exactly when a path of at most `d` calls leads to it from the direct selection;
its depth is the length of the shortest one; and the external names are those
without a definition, not ignored, that a function at a depth below `d` calls. -/
theorem expand_distances {text : String} {doc : Document}
    (h : Document.parse text = .ok doc) (c : Criteria) (limit : Nat)
    (asked : List String) (d : Nat) :
    let direct := (c.select doc limit).1
    let grown := (c.expand (CallGraph.afterAsking doc asked) direct d).selection
    (∀ g, grown.contains g = true ↔
      ∃ n ≤ d, ∃ f, direct.contains f = true ∧ CallPath c doc n f g) ∧
    (∀ g n, grown.depth? g = some n →
      IsLeast {m | ∃ f, direct.contains f = true ∧ CallPath c doc m f g} n) ∧
    (∀ g, g ∈ grown.external ↔
      doc.contains g = false ∧ c.ignores g = false ∧
        ∃ f n, grown.depth? f = some n ∧ n < d ∧ doc.Calls f g) := by
  intro direct grown
  obtain ⟨hfaithful, hdoc⟩ := CallGraph.afterAsking_spec doc asked
  have hlayered :=
    layered_expand (Document.names_nodup h) c limit hfaithful hdoc d
  refine ⟨fun g => ?_, fun g n hn => ((hlayered.depths g n).1 hn).2,
    hlayered.external⟩
  rw [Selection.contains_iff_depth?]
  constructor
  · rintro ⟨n, hn⟩
    obtain ⟨hle, hdist⟩ := (hlayered.depths g n).1 hn
    exact ⟨n, hle, hdist.1⟩
  · rintro ⟨m, hle, hreached⟩
    obtain ⟨n, hn, hdist⟩ := exists_atDistance hreached
    exact ⟨n, (hlayered.depths g n).2 ⟨by omega, hdist⟩⟩

theorem expand_distances_sample :
    Document.parse Document.sampleText = .ok Document.sample ∧
      let c : Criteria := ⟨["a"], .empty, .empty, .empty⟩
      let direct := (c.select Document.sample 10).1
      let grown := (c.expand (CallGraph.afterAsking Document.sample ["b"])
        direct 2).selection
      (∀ g, grown.contains g = true ↔
        ∃ n ≤ 2, ∃ f, direct.contains f = true ∧
          CallPath c Document.sample n f g) ∧
      (∀ g n, grown.depth? g = some n →
        IsLeast {m | ∃ f, direct.contains f = true ∧
          CallPath c Document.sample m f g} n) ∧
      (∀ g, g ∈ grown.external ↔
        Document.sample.contains g = false ∧ c.ignores g = false ∧
          ∃ f n, grown.depth? f = some n ∧ n < 2 ∧
            Document.sample.Calls f g) :=
  ⟨Document.parse_sampleText,
    expand_distances Document.parse_sampleText _ 10 ["b"] 2⟩

end IrExcerpt
