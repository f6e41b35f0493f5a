import IrExcerpt.Proofs.DepthMonotone
import IrExcerpt.Proofs.ReportEntries
import IrExcerpt.Proofs.Resumption
import Mathlib.Data.Set.Card

/-!
# The figures of an expansion

An expansion counts while it searches: how many functions each round brings in,
how often a callee is passed over because it is ignored, and where it ran out of
functions. The counters are raised in different branches of the innermost loop,
and none of them is ever compared with the selection that comes out.

They agree with it nevertheless. Along a round, the counter of additions grows
with the number of functions at the new depth (`Layer.Counts`), and no later
round touches a depth that has been left, so the counts of the rounds are those
of the final selection (`Tallied`). A callee is passed over once for each
function that calls it, since a function is followed in the one round behind its
depth and its callees are a set. And a round takes place only if the one before
it has added something, the first one apart; this bounds the number of rounds by
the number of functions that are not selected, whatever the limit is.
-/

namespace IrExcerpt

open Expansion

variable {c : Criteria} {doc : Document} {start : String → Prop}

/-! ## Sets and lists -/

theorem encard_setOf_mem {α : Type} [DecidableEq α] {l : List α}
    (h : l.Nodup) : {a | a ∈ l}.encard = l.length := by
  rw [← List.coe_toFinset, Set.encard_coe_eq_coe_finsetCard,
    List.toFinset_card_of_nodup h]

theorem NameSet.nodup_of_ordered {s : NameSet} (h : s.Pairwise (· < ·)) :
    s.Nodup :=
  h.imp fun hlt heq => by simp [heq] at hlt

namespace Selection

theorem nodup_atDepth (s : Selection) (n : Nat) : (s.atDepth n).Nodup :=
  NameSet.nodup_of_ordered (NameSet.ordered_ofList _)

theorem encard_depth? (s : Selection) (n : Nat) :
    {f | s.depth? f = some n}.encard = (s.atDepth n).length := by
  rw [← encard_setOf_mem (s.nodup_atDepth n)]
  simp only [mem_atDepth]

theorem length_atDepth (s : Selection) (n : Nat) :
    (s.atDepth n).length = s.depths.countP fun entry => entry.2 == n := by
  have hsub : ((s.depths.filter fun entry => entry.2 == n).map
      Prod.fst).Nodup :=
    ((List.filter_sublist (l := s.depths)).map Prod.fst).nodup s.distinct
  have hperm := (List.perm_ext_iff_of_nodup (s.nodup_atDepth n) hsub).2
    fun f => by rw [atDepth, NameSet.mem_ofList]
  rw [hperm.length_eq, List.length_map, List.countP_eq_length_filter]

variable {s : Selection} {name : String}

theorem size_insert (h : s.contains name = false) (n : Nat) :
    (s.insert name n).size = s.size + 1 := by
  simp [insert, h, size]

theorem length_atDepth_insert (h : s.contains name = false) (n : Nat) :
    ((s.insert name n).atDepth n).length = (s.atDepth n).length + 1 := by
  simp [length_atDepth, insert, h]

end Selection

/-! ## One round -/

/-- The calls of `callers` that are passed over, each with its caller. -/
def Criteria.ignoredCalls (c : Criteria) (doc : Document)
    (callers : List String) : List (String × String) :=
  callers.flatMap fun f => ((doc.calleesOf f).filter c.ignores).map (f, ·)

theorem mem_ignoredCalls {callers : List String} {call : String × String} :
    call ∈ c.ignoredCalls doc callers ↔ call.1 ∈ callers ∧
      call.2 ∈ doc.calleesOf call.1 ∧ c.ignores call.2 = true := by
  obtain ⟨f, g⟩ := call
  simp [Criteria.ignoredCalls]

theorem nodup_ignoredCalls {callers : List String} (h : callers.Nodup) :
    (c.ignoredCalls doc callers).Nodup := by
  refine List.nodup_flatMap.2 ⟨fun f _ => ?_, h.imp ?_⟩
  · have hcallees : (doc.calleesOf f).Nodup :=
      NameSet.nodup_of_ordered (NameSet.ordered_ofList _)
    exact (hcallees.filter _).map fun _ _ heq => (Prod.mk.inj heq).2
  · intro f f' hne call hcall hcall'
    obtain ⟨g, -, rfl⟩ := List.mem_map.1 hcall
    obtain ⟨g', -, heq⟩ := List.mem_map.1 hcall'
    exact hne (Prod.mk.inj heq).1.symm

/-- From one moment of a round to a later one: as many functions have come in,
all at the new depth, as have been counted, and so many callees have been passed
over. -/
structure Expansion.Layer.Counts (depth ignored : Nat) (l l' : Layer) :
    Prop where
  size : l'.selection.size + l.added = l.selection.size + l'.added
  atDepth : (l'.selection.atDepth depth).length + l.added =
    (l.selection.atDepth depth).length + l'.added
  ignored : l'.ignored = l.ignored + ignored

namespace Expansion.Layer.Counts

variable {depth m n : Nat} {l l' l'' : Layer}

theorem refl (depth : Nat) (l : Layer) : Counts depth 0 l l :=
  ⟨rfl, rfl, rfl⟩

theorem trans (h : Counts depth m l l') (h' : Counts depth n l' l'') :
    Counts depth (m + n) l l'' := by
  obtain ⟨hsize, hdepth, hignored⟩ := h
  obtain ⟨hsize', hdepth', hignored'⟩ := h'
  exact ⟨by omega, by omega, by omega⟩

end Expansion.Layer.Counts

/-- No selected name is ignored. -/
def Selection.Clean (c : Criteria) (s : Selection) : Prop :=
  ∀ f, s.contains f = true → c.ignores f = false

theorem Selection.Clean.grown {depth : Nat} {called : String → Prop}
    {s s' : Selection} (h : s.Clean c) (hgrown : Grown c doc depth called s s') :
    s'.Clean c := by
  intro f hf
  obtain ⟨n, hn⟩ := Selection.contains_iff_depth?.1 hf
  rcases (hgrown.depths f n).1 hn with hold | ⟨-, -, -, hadm⟩
  · exact h f (Selection.contains_iff_depth?.2 ⟨n, hold⟩)
  · exact hadm.2

theorem counts_meet (depth : Nat) (caller callee : String) {l : Layer}
    (hclean : l.selection.Clean c) :
    Layer.Counts depth ([callee].countP c.ignores) l
      (Layer.meet c depth caller l callee) := by
  have hkept : c.ignores callee = false → [callee].countP c.ignores = 0 := by
    intro h
    simp [h]
  unfold Layer.meet
  split
  · next hsel =>
      rw [hkept (hclean callee hsel)]
      exact .refl depth l
  · next hsel =>
      have hnew : l.selection.contains callee = false := by simpa using hsel
      split
      · next hign =>
          have hone : [callee].countP c.ignores = 1 := by simp [hign]
          rw [hone]
          exact ⟨rfl, rfl, rfl⟩
      · next hign =>
          rw [hkept (by simpa using hign)]
          split
          · have hsize := Selection.size_insert hnew depth
            have hdepth := Selection.length_atDepth_insert hnew depth
            refine ⟨?_, ?_, rfl⟩ <;> dsimp only <;> omega
          · split
            · exact .refl depth l
            · exact ⟨rfl, rfl, rfl⟩

theorem counts_foldl_meet (depth : Nat) (caller : String)
    (callees : List String) {l : Layer} (hclean : l.selection.Clean c) :
    Layer.Counts depth (callees.countP c.ignores) l
      (callees.foldl (Layer.meet c depth caller) l) := by
  induction callees generalizing l with
  | nil => exact .refl depth l
  | cons callee callees ih =>
      have hfirst := counts_meet depth caller callee hclean
      have hrest := ih (hclean.grown (grown_meet depth caller l callee))
      have hboth := hfirst.trans hrest
      rwa [← List.countP_append] at hboth

theorem counts_follow (depth : Nat) {l : Layer} {caller : String}
    (hgraph : l.graph.Faithful) (hclean : l.selection.Clean c)
    (hadm : c.Admits l.graph.document caller) :
    Layer.Counts depth (c.ignoredCalls l.graph.document [caller]).length l
      (Layer.follow c depth l caller) := by
  have hcount := counts_foldl_meet (c := c) depth caller
    (l.graph.callees caller).1
    (l := { l with graph := (l.graph.callees caller).2 }) hclean
  have hlength : (c.ignoredCalls l.graph.document [caller]).length =
      (l.graph.callees caller).1.countP c.ignores := by
    rw [CallGraph.callees_fst hgraph, List.countP_eq_length_filter]
    simp [Criteria.ignoredCalls]
  have hgo : (l.graph.document.contains caller && !c.ignores caller) = true := by
    simp [hadm.1, hadm.2]
  rw [hlength, Layer.follow, if_pos hgo]
  exact ⟨hcount.size, hcount.atDepth, hcount.ignored⟩

/-- What one round counts. -/
theorem counts_layer (depth : Nat) {graph : CallGraph} {s : Selection}
    {callers : List String} (hgraph : graph.Faithful) (hclean : s.Clean c)
    (hadm : ∀ f ∈ callers, c.Admits graph.document f) :
    Layer.Counts depth (c.ignoredCalls graph.document callers).length
      ⟨s, graph, 0, 0, []⟩ (layer c depth graph s callers) := by
  have hrun : ∀ l : Layer, l.graph.Faithful →
      l.graph.document = graph.document → l.selection.Clean c →
      Layer.Counts depth (c.ignoredCalls graph.document callers).length l
        (callers.foldl (Layer.follow c depth) l) := by
    induction callers with
    | nil => intro l _ _ _; exact .refl depth l
    | cons f callers ih =>
        intro l hl hdoc hlclean
        have hf := hadm f List.mem_cons_self
        rw [← hdoc] at hf
        have hfirst := counts_follow depth hl hlclean hf
        obtain ⟨hgrown, hfaithful, hsame⟩ := grown_follow (c := c) depth l f hl
        have hrest := ih (fun g hg => hadm g (List.mem_cons_of_mem _ hg)) _
          hfaithful (hsame.trans hdoc) (hlclean.grown hgrown)
        rw [hdoc] at hfirst
        have hsplit : (c.ignoredCalls graph.document (f :: callers)).length =
            (c.ignoredCalls graph.document [f]).length +
              (c.ignoredCalls graph.document callers).length := by
          simp [Criteria.ignoredCalls]
        rw [hsplit]
        exact hfirst.trans hrest
  exact hrun ⟨s, graph, 0, 0, []⟩ hgraph rfl hclean

/-! ## All rounds -/

/-- The calls that are passed over on the way from depth `k` to depth `n`: those
of a function selected in between to an ignored callee. -/
def Criteria.PassedOver (c : Criteria) (doc : Document) (s : Selection)
    (k n : Nat) : Set (String × String) :=
  {call | (∃ m, k ≤ m ∧ m < n ∧ s.depth? call.1 = some m) ∧
    doc.Calls call.1 call.2 ∧ c.ignores call.2 = true}

/-- What `left` rounds from depth `k` on have counted, said of the selection
that they end with. `addedPerDepth` has an entry for each round that took
place. -/
structure Tallied (c : Criteria) (doc : Document) (k left : Nat)
    (s : Selection) (run : Expansion) : Prop where
  bound : run.stats.addedPerDepth.length ≤ left
  added : ∀ i n, run.stats.addedPerDepth[i]? = some n →
    (run.selection.atDepth (k + i + 1)).length = n
  busy : ∀ i < run.stats.addedPerDepth.length,
    run.selection.atDepth (k + i) ≠ []
  exhausted : run.stats.exhaustedAt =
    if run.stats.addedPerDepth.length < left
      then some (k + run.stats.addedPerDepth.length) else none
  gap : run.stats.addedPerDepth.length < left →
    run.selection.atDepth (k + run.stats.addedPerDepth.length) = []
  size : run.selection.size = s.size + run.stats.addedPerDepth.sum
  ignored : (c.PassedOver doc run.selection k (k + left)).encard =
    run.stats.ignoredCallees

theorem Layered.clean {k : Nat} {s : Selection}
    (h : Layered c doc start k s) : s.Clean c := by
  intro f hf
  obtain ⟨n, hn⟩ := Selection.contains_iff_depth?.1 hf
  exact ((h.depths f n).1 hn).2.admits.2

theorem Layered.atDepth_eq_nil {k n : Nat} {s : Selection}
    (h : Layered c doc start k s) (hn : k < n) : s.atDepth n = [] := by
  rw [List.eq_nil_iff_forall_not_mem]
  intro f hf
  have hle := ((h.depths f n).1 (Selection.mem_atDepth.1 hf)).1
  omega

/-- A depth that both selections are right about holds the same names. -/
theorem Layered.atDepth_eq {k k' n : Nat} {s s' : Selection}
    (h : Layered c doc start k s) (h' : Layered c doc start k' s')
    (hk : n ≤ k) (hk' : n ≤ k') : s'.atDepth n = s.atDepth n := by
  refine NameSet.eq_of_mem_iff (NameSet.ordered_ofList _)
    (NameSet.ordered_ofList _) fun f => ?_
  rw [Selection.mem_atDepth, Selection.mem_atDepth, h.depths, h'.depths]
  simp [hk, hk']

theorem Layered.passedOver_eq_empty {k n : Nat} {s : Selection}
    (h : Layered c doc start k s) (hgap : s.atDepth k = [] ∨ n ≤ k) :
    c.PassedOver doc s k n = ∅ := by
  rw [Set.eq_empty_iff_forall_notMem]
  rintro ⟨f, g⟩ ⟨⟨m, hkm, hmn, hf⟩, -⟩
  have hle := ((h.depths f m).1 hf).1
  rcases hgap with hgap | hgap
  · obtain rfl : m = k := by omega
    have hmem := Selection.mem_atDepth.2 hf
    rw [hgap] at hmem
    cases hmem
  · omega

theorem encard_passedOver_succ {k n : Nat} {s : Selection}
    (hnodup : doc.names.Nodup) (hk : k < n) :
    (c.PassedOver doc s k n).encard =
      (c.ignoredCalls doc (s.atDepth k)).length +
        (c.PassedOver doc s (k + 1) n).encard := by
  rw [← encard_setOf_mem (nodup_ignoredCalls (s.nodup_atDepth k)),
    ← Set.encard_union_eq]
  · congr 1
    ext ⟨f, g⟩
    simp only [Criteria.PassedOver, Set.mem_union, Set.mem_ofPred_eq,
      mem_ignoredCalls, Selection.mem_atDepth, Document.mem_calleesOf hnodup]
    constructor
    · rintro ⟨⟨m, hkm, hmn, hf⟩, hcall⟩
      rcases Nat.lt_or_eq_of_le hkm with hlt | rfl
      · exact .inr ⟨⟨m, hlt, hmn, hf⟩, hcall⟩
      · exact .inl ⟨hf, hcall⟩
    · rintro (⟨hf, hcall⟩ | ⟨⟨m, hkm, hmn, hf⟩, hcall⟩)
      · exact ⟨⟨k, Nat.le_refl k, hk, hf⟩, hcall⟩
      · exact ⟨⟨m, by omega, hmn, hf⟩, hcall⟩
  · rw [Set.disjoint_left]
    rintro ⟨f, g⟩ hnow ⟨⟨m, hkm, -, hlater⟩, -⟩
    have hf := Selection.mem_atDepth.1 (mem_ignoredCalls.1 hnow).1
    rw [hlater] at hf
    cases hf
    omega

/-- A round in front of others that have been tallied. -/
theorem Tallied.cons {k left : Nat} {s : Selection} {l : Layer}
    {later run : Expansion} (hnodup : doc.names.Nodup)
    (h : Layered c doc start k s)
    (hnext : Layered c doc start (k + 1) l.selection)
    (hend : Layered c doc start (k + 1 + left) later.selection)
    (hbusy : s.atDepth k ≠ [])
    (hcount : Layer.Counts (k + 1) (c.ignoredCalls doc (s.atDepth k)).length
      ⟨s, l.graph, 0, 0, []⟩ l)
    (hlater : Tallied c doc (k + 1) left l.selection later)
    (hselection : run.selection = later.selection)
    (hstats : run.stats = ⟨l.added :: later.stats.addedPerDepth,
      l.ignored + later.stats.ignoredCallees, later.stats.exhaustedAt⟩) :
    Tallied c doc k (left + 1) s run := by
  obtain ⟨hbound, hadded, hbusier, hexhausted, hgap, hsize, hignored⟩ := hlater
  have hnow : later.selection.atDepth k = s.atDepth k :=
    h.atDepth_eq hend (Nat.le_refl k) (by omega)
  have hnew : (later.selection.atDepth (k + 1)).length = l.added := by
    have hold := hcount.atDepth
    rw [h.atDepth_eq_nil (Nat.lt_succ_self k)] at hold
    rw [hnext.atDepth_eq hend (Nat.le_refl _) (Nat.le_add_right _ _)]
    simpa using hold
  rw [show k + 1 + left = k + (left + 1) by omega] at hignored
  constructor
  · rw [hstats]
    exact Nat.succ_le_succ hbound
  · intro i n hi
    rw [hstats] at hi
    rw [hselection]
    cases i with
    | zero =>
        cases hi
        exact hnew
    | succ i =>
        rw [show k + (i + 1) + 1 = k + 1 + i + 1 by omega]
        exact hadded i n hi
  · intro i hi
    rw [hstats] at hi
    rw [hselection]
    cases i with
    | zero =>
        rw [Nat.add_zero, hnow]
        exact hbusy
    | succ i =>
        rw [show k + (i + 1) = k + 1 + i by omega]
        exact hbusier i (Nat.lt_of_succ_lt_succ hi)
  · rw [hstats]
    simp only [List.length_cons, Nat.add_lt_add_iff_right, hexhausted]
    rw [show k + 1 + later.stats.addedPerDepth.length =
      k + (later.stats.addedPerDepth.length + 1) by omega]
  · rw [hstats, hselection]
    intro hlt
    rw [List.length_cons, show k + (later.stats.addedPerDepth.length + 1) =
      k + 1 + later.stats.addedPerDepth.length by omega]
    exact hgap (Nat.lt_of_succ_lt_succ hlt)
  · rw [hstats, hselection, List.sum_cons, hsize]
    have hgrew := hcount.size
    dsimp only at hgrew
    omega
  · have hpassed := hcount.ignored
    rw [Nat.zero_add] at hpassed
    rw [hstats, hselection, encard_passedOver_succ hnodup (by omega), hnow,
      hignored, ← hpassed]
    exact (Nat.cast_add _ _).symm

theorem tallied_rounds (hnodup : doc.names.Nodup) (left : Nat) {k : Nat}
    {graph : CallGraph} {s : Selection} (hgraph : graph.Faithful)
    (hdoc : graph.document = doc) (h : Layered c doc start k s) :
    Tallied c doc k left s (rounds c left k graph s) := by
  induction left generalizing k graph s with
  | zero =>
      refine ⟨Nat.le_refl 0, by simp [rounds], by simp [rounds], rfl,
        by simp [rounds], rfl, ?_⟩
      change (c.PassedOver doc s k k).encard = 0
      rw [h.passedOver_eq_empty (.inr (Nat.le_refl k)), Set.encard_empty]
  | succ left ih =>
      unfold rounds
      split
      · next hgap =>
          refine ⟨Nat.zero_le _, by simp, by simp, by simp, fun _ => hgap, rfl,
            ?_⟩
          change (c.PassedOver doc s k (k + (left + 1))).encard = 0
          rw [h.passedOver_eq_empty (.inl hgap), Set.encard_empty]
      · next hbusy =>
          obtain ⟨hgrown, hfaithful, hsame⟩ :=
            grown_layer (c := c) (k + 1) graph hgraph s (s.atDepth k)
          rw [hdoc] at hgrown hsame
          have hnext := h.step hnodup hgrown
          have hadm : ∀ f ∈ s.atDepth k, c.Admits graph.document f := by
            intro f hf
            rw [hdoc]
            exact ((h.depths f k).1 (Selection.mem_atDepth.1 hf)).2.admits
          have hcount := counts_layer (k + 1) hgraph h.clean hadm
          rw [hdoc] at hcount
          exact .cons hnodup h hnext (hnext.rounds hnodup left hfaithful hsame)
            hbusy ⟨hcount.size, hcount.atDepth, hcount.ignored⟩
            (ih hfaithful hsame hnext) rfl rfl

/-! ## What the figures say -/

theorem Selection.atDepth_eq_nil {s : Selection} {n : Nat} :
    s.atDepth n = [] ↔ ∀ f, s.depth? f ≠ some n := by
  rw [List.eq_nil_iff_forall_not_mem]
  simp only [Selection.mem_atDepth, ne_eq]

theorem length_le_sum_add_one {l : List Nat}
    (h : ∀ i n, i + 1 < l.length → l[i]? = some n → 0 < n) :
    l.length ≤ l.sum + 1 := by
  induction l with
  | nil => simp
  | cons a l ih =>
      have hrest := ih fun i n hi hn =>
        h (i + 1) n (Nat.succ_lt_succ hi) hn
      cases l with
      | nil => simp
      | cons b l =>
          have ha := h 0 a (by simp) rfl
          simp only [List.length_cons, List.sum_cons] at hrest ⊢
          omega

namespace Tallied

variable {d : Nat} {direct : Selection} {run : Expansion}

theorem positive (h : Tallied c doc 0 d direct run) {i n : Nat}
    (hi : i + 1 < run.stats.addedPerDepth.length)
    (hn : run.stats.addedPerDepth[i]? = some n) : 0 < n := by
  have hbusy := h.busy (i + 1) hi
  rw [← h.added i n hn, List.length_pos_iff]
  rwa [← Nat.add_assoc] at hbusy

/-- Rounds that add something are bounded by the functions there are. -/
theorem length_le (h : Tallied c doc 0 d direct run) {n : Nat}
    (hn : run.selection.size ≤ n) :
    run.stats.addedPerDepth.length ≤ min d (n - direct.size + 1) := by
  have hrounds := length_le_sum_add_one fun i m => h.positive (i := i) (n := m)
  have hsize := h.size
  have hbound := h.bound
  omega

theorem exhausted_iff (h : Tallied c doc 0 d direct run) (k : Nat) :
    run.stats.exhaustedAt = some k ↔
      k < d ∧ IsLeast {n | ∀ f, run.selection.depth? f ≠ some n} k := by
  have hbusy : ∀ n, (∀ f, run.selection.depth? f ≠ some n) →
      run.stats.addedPerDepth.length ≤ n := by
    intro n hn
    by_contra hlt
    have hsome := h.busy n (by omega)
    rw [Nat.zero_add] at hsome
    exact hsome (Selection.atDepth_eq_nil.2 hn)
  have hgap := h.gap
  rw [Nat.zero_add] at hgap
  rw [h.exhausted, Nat.zero_add]
  constructor
  · intro hsome
    split at hsome
    · next hlt =>
        cases hsome
        exact ⟨hlt, Selection.atDepth_eq_nil.1 (hgap hlt), hbusy⟩
    · cases hsome
  · rintro ⟨hk, hempty, hleast⟩
    have hlength := hbusy k hempty
    have hlt : run.stats.addedPerDepth.length < d := by omega
    have hle := hleast (Selection.atDepth_eq_nil.1 (hgap hlt))
    rw [if_pos hlt, Nat.le_antisymm hlength hle]

theorem length_of_exhausted (h : Tallied c doc 0 d direct run) {k : Nat}
    (hk : run.stats.exhaustedAt = some k) :
    run.stats.addedPerDepth.length = k := by
  rw [h.exhausted, Nat.zero_add] at hk
  split at hk
  · exact Option.some.inj hk
  · cases hk

/-- A search that has stopped, or whose last round has added nothing, has come
to an empty depth. -/
theorem gap_of_stopped (h : Tallied c doc 0 d direct run)
    (hstop : run.stats.exhaustedAt ≠ none ∨
      run.stats.addedPerDepth.getLast? = some 0) :
    run.selection.atDepth run.stats.addedPerDepth.length = [] := by
  rcases hstop with hsome | hlast
  · have hgap := h.gap
    rw [Nat.zero_add] at hgap
    rw [h.exhausted] at hsome
    split at hsome
    · next hlt => exact hgap hlt
    · exact absurd rfl hsome
  · rw [List.getLast?_eq_getElem?] at hlast
    have hempty := h.added _ 0 hlast
    obtain ⟨hlt, -⟩ := List.getElem?_eq_some_iff.1 hlast
    rw [Nat.zero_add, Nat.sub_add_cancel (by omega)] at hempty
    exact List.length_eq_zero_iff.1 hempty

end Tallied

/-- Where the last depth is empty, every call leads to a name that the selection
knows. -/
theorem Layered.closed_of_gap {d : Nat} {s : Selection}
    (h : Layered c doc start d s) (hgap : s.atDepth d = []) {f g : String}
    (hf : s.contains f = true) (hcall : doc.Calls f g) :
    s.contains g = true ∨ c.ignores g = true ∨ g ∈ s.external := by
  obtain ⟨n, hn⟩ := Selection.contains_iff_depth?.1 hf
  obtain ⟨hle, hdist⟩ := (h.depths f n).1 hn
  have hlt : n < d := by
    refine Nat.lt_of_le_of_ne hle ?_
    rintro rfl
    exact Selection.atDepth_eq_nil.1 hgap f hn
  cases hign : c.ignores g with
  | true => exact .inr (.inl rfl)
  | false =>
      cases hdef : doc.contains g with
      | true =>
          obtain ⟨m, hm, hdist'⟩ := exists_atDistance
            (reached_succ.2 ⟨⟨f, hdist.1, hcall⟩, hdef, hign⟩)
          exact .inl (Selection.contains_iff_depth?.2
            ⟨m, (h.depths g m).2 ⟨by omega, hdist'⟩⟩)
      | false =>
          exact .inr (.inr ((h.external g).2
            ⟨hdef, hign, f, n, hn, hlt, hcall⟩))

/-- More rounds behind an empty depth change nothing. -/
theorem selection_rounds_of_gap (left more : Nat) {k : Nat} {graph : CallGraph}
    {s : Selection}
    (hgap : (rounds c left k graph s).selection.atDepth (k + left) = []) :
    (rounds c (left + more) k graph s).selection =
      (rounds c left k graph s).selection := by
  induction left generalizing k graph s with
  | zero =>
      have hnone : s.atDepth k = [] := hgap
      cases more with
      | zero => rfl
      | succ more =>
          simp [rounds, hnone]
  | succ left ih =>
      rw [show left + 1 + more = left + more + 1 by omega]
      revert hgap
      unfold rounds
      split
      · intro _
        rfl
      · intro hgap
        rw [show k + (left + 1) = k + 1 + left by omega] at hgap
        exact ih hgap

/-- The rounds that took place would have been enough. -/
theorem selection_rounds_length (left : Nat) {k : Nat} {graph : CallGraph}
    {s : Selection} :
    (rounds c (rounds c left k graph s).stats.addedPerDepth.length k graph
        s).selection = (rounds c left k graph s).selection := by
  induction left generalizing k graph s with
  | zero => rfl
  | succ left ih =>
      cases hcallers : s.atDepth k with
      | nil => simp [rounds, hcallers]
      | cons f callers => simp [rounds, hcallers, ih]

/-- The figures of an expansion of `direct` up to depth `d`, said of the
selection that it ends with. -/
structure Expansion.FiguresExact (c : Criteria) (doc : Document)
    (graph : CallGraph) (direct : Selection) (d : Nat) (run : Expansion) :
    Prop where
  /-- Entry `i` is the number of functions at depth `i + 1`. -/
  added : ∀ i n : Nat, run.stats.addedPerDepth[i]? = some n →
    {f | run.selection.depth? f = some (i + 1)}.encard = n
  /-- Only the last entry can be zero. -/
  positive : ∀ i n : Nat, i + 1 < run.stats.addedPerDepth.length →
    run.stats.addedPerDepth[i]? = some n → 0 < n
  /-- There are no more rounds than the limit, and at most one more than
  functions that were not selected; and no others were needed. -/
  rounds : direct.size ≤ doc.functionCount ∧
    run.stats.addedPerDepth.length ≤
      min d (doc.functionCount - direct.size + 1) ∧
    (c.expand graph direct run.stats.addedPerDepth.length).selection =
      run.selection
  total : direct.size + run.stats.totalAdded = run.selection.size
  /-- A callee is passed over once for each function that calls it from a depth
  below the limit. -/
  ignored : {call : String × String |
      (∃ n < d, run.selection.depth? call.1 = some n) ∧
        doc.Calls call.1 call.2 ∧ c.ignores call.2 = true}.encard =
    run.stats.ignoredCallees
  /-- The search is exhausted at the first empty depth below the limit. -/
  exhausted : ∀ k, run.stats.exhaustedAt = some k ↔
    k < d ∧ IsLeast {n | ∀ f, run.selection.depth? f ≠ some n} k
  length : ∀ k, run.stats.exhaustedAt = some k →
    run.stats.addedPerDepth.length = k
  /-- A search that has come to its end leaves no call open, and a larger limit
  gives the same selection. -/
  complete : run.stats.exhaustedAt ≠ none ∨
      run.stats.addedPerDepth.getLast? = some 0 →
    (∀ f g, run.selection.contains f = true → doc.Calls f g →
      run.selection.contains g = true ∨ c.ignores g = true ∨
        g ∈ run.selection.external) ∧
    ∀ d' > d, (c.expand graph direct d').selection = run.selection

/-- Expansion counts what it does, and where it stops early nothing is left to
be found. -/
theorem expand_figures {text : String} {doc : Document}
    (h : Document.parse text = .ok doc) (c : Criteria) (limit : Nat)
    (asked : List String) (d : Nat) :
    let graph := CallGraph.afterAsking doc asked
    let direct := (c.select doc limit).1
    (c.expand graph direct d).FiguresExact c doc graph direct d := by
  intro graph direct
  have hnodup := Document.names_nodup h
  obtain ⟨hfaithful, hdoc⟩ := CallGraph.afterAsking_spec doc asked
  have hdirect := layered_select c doc limit
  have hend : Layered c doc _ d (c.expand graph direct d).selection :=
    layered_expand hnodup c limit hfaithful hdoc d
  have htally : Tallied c doc 0 d direct (c.expand graph direct d) :=
    tallied_rounds hnodup d hfaithful hdoc hdirect
  refine ⟨fun i n hn => ?_, fun i n => htally.positive,
    ⟨hdirect.size_le_functionCount hnodup,
      htally.length_le (hend.size_le_functionCount hnodup),
      selection_rounds_length d⟩, ?_, ?_, htally.exhausted_iff,
    fun k => htally.length_of_exhausted, fun hstop => ?_⟩
  · rw [Selection.encard_depth?, ← htally.added i n hn, Nat.zero_add]
  · rw [Expansion.Stats.totalAdded, ← List.sum_eq_foldl, htally.size]
  · rw [← htally.ignored, Criteria.PassedOver]
    simp
  · have hgap := hend.atDepth_eq_nil_of_gap htally.bound
      (htally.gap_of_stopped hstop)
    refine ⟨fun f g => hend.closed_of_gap hgap, fun d' hd' => ?_⟩
    obtain ⟨more, rfl⟩ := Nat.exists_eq_add_of_le (Nat.le_of_lt hd')
    refine selection_rounds_of_gap d more ?_
    rw [Nat.zero_add]
    exact hgap

theorem expand_figures_sample :
    let c : Criteria :=
      ⟨["a"], .empty, .empty, ⟨(Pattern.compile? "^p").toList⟩⟩
    let graph := CallGraph.afterAsking Document.sample ["b"]
    let direct := (c.select Document.sample 10).1
    let run := c.expand graph direct 5
    Document.parse Document.sampleText = .ok Document.sample ∧
      run.stats = ⟨[1, 0], 1, some 2⟩ ∧
      run.FiguresExact c Document.sample graph direct 5 := by
  intro c graph direct run
  exact ⟨Document.parse_sampleText, by decide +kernel,
    expand_figures Document.parse_sampleText c 10 ["b"] 5⟩

end IrExcerpt
