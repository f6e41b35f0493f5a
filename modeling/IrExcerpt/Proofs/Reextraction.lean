import IrExcerpt.Proofs.CallDistance
import IrExcerpt.Proofs.ReadBack

/-!
# Extracting again changes nothing

An excerpt taken from an excerpt, with the same criteria and the same depth,
selects what was selected before. The second run has fewer functions to look
at, but it never asks for one that is missing. Whatever the criteria ask for is
in the excerpt, and so is whatever a function before the last depth calls, if it
is defined and not ignored at all; for the first run would have selected it.

So the two runs go in lockstep. They differ in the graph they ask and in nothing
else: not in the selection, not in the figures, not in what is told on the way.
The lemmas below carry this through every layer of the search, from meeting one
callee to all rounds, each time in the form that a run on another graph is the
run on this one with the graph exchanged.
-/

namespace IrExcerpt

open Expansion

variable {c : Criteria} {doc doc' : Document} {start : String → Prop}

/-! ## The search in lockstep -/

/-- On its way through `f`, the search cannot tell the documents apart. -/
structure Agree (c : Criteria) (doc doc' : Document) (f : String) : Prop where
  contains : doc'.contains f = doc.contains f
  callees : doc'.calleesOf f = doc.calleesOf f
  called : ∀ g ∈ doc.calleesOf f, c.ignores g = false →
    doc'.contains g = doc.contains g

theorem meet_exchange {depth : Nat} {caller callee : String} {l : Layer}
    {graph' : CallGraph}
    (hsame : c.ignores callee = false →
      graph'.document.contains callee = l.graph.document.contains callee) :
    Layer.meet c depth caller { l with graph := graph' } callee =
      { Layer.meet c depth caller l callee with graph := graph' } := by
  unfold Layer.meet
  by_cases hsel : l.selection.contains callee = true
  · simp only [if_pos hsel]
  · simp only [if_neg hsel]
    by_cases hign : c.ignores callee = true
    · simp only [if_pos hign]
    · simp only [if_neg hign]
      rw [hsame (by simpa using hign)]
      by_cases hdef : l.graph.document.contains callee = true
      · simp only [if_pos hdef]
      · simp only [if_neg hdef]
        by_cases hext : l.selection.isExternal callee = true
        · simp only [if_pos hext]
        · simp only [if_neg hext]

theorem foldl_meet_exchange {depth : Nat} {caller : String}
    {callees : List String} {l : Layer} {graph' : CallGraph}
    (hsame : ∀ callee ∈ callees, c.ignores callee = false →
      graph'.document.contains callee = l.graph.document.contains callee) :
    callees.foldl (Layer.meet c depth caller) { l with graph := graph' } =
      { callees.foldl (Layer.meet c depth caller) l with graph := graph' } := by
  induction callees generalizing l with
  | nil => rfl
  | cons callee callees ih =>
      rw [List.foldl_cons, List.foldl_cons,
        meet_exchange (hsame callee List.mem_cons_self)]
      apply ih
      intro g hg hign
      rw [graph_meet]
      exact hsame g (List.mem_cons_of_mem _ hg) hign

theorem follow_exchange (depth : Nat) {l : Layer} {caller : String}
    {graph' : CallGraph} (hgraph : l.graph.Faithful) (hgraph' : graph'.Faithful)
    (hagree : Agree c l.graph.document graph'.document caller) :
    ∃ later : CallGraph, later.Faithful ∧ later.document = graph'.document ∧
      Layer.follow c depth { l with graph := graph' } caller =
        { Layer.follow c depth l caller with graph := later } := by
  unfold Layer.follow
  simp only [hagree.contains]
  split
  · refine ⟨(graph'.callees caller).2, CallGraph.faithful_callees hgraph' caller,
      CallGraph.document_callees graph' caller, ?_⟩
    have hnames : (graph'.callees caller).1 = (l.graph.callees caller).1 := by
      rw [CallGraph.callees_fst hgraph', CallGraph.callees_fst hgraph,
        hagree.callees]
    rw [hnames]
    refine foldl_meet_exchange (c := c)
      (l := { l with graph := (l.graph.callees caller).2 }) ?_
    intro g hg hign
    rw [CallGraph.callees_fst hgraph] at hg
    simp only [CallGraph.document_callees]
    exact hagree.called g hg hign
  · exact ⟨graph', hgraph', rfl, rfl⟩

theorem layer_exchange (depth : Nat) {graph graph' : CallGraph} (s : Selection)
    {callers : List String} (hgraph : graph.Faithful)
    (hgraph' : graph'.Faithful)
    (hagree : ∀ f ∈ callers, Agree c graph.document graph'.document f) :
    ∃ later : CallGraph, later.Faithful ∧ later.document = graph'.document ∧
      layer c depth graph' s callers =
        { layer c depth graph s callers with graph := later } := by
  have hrun : ∀ (l : Layer) (other : CallGraph), l.graph.Faithful →
      other.Faithful → l.graph.document = graph.document →
      other.document = graph'.document →
      ∃ later : CallGraph, later.Faithful ∧ later.document = graph'.document ∧
        callers.foldl (Layer.follow c depth) { l with graph := other } =
          { callers.foldl (Layer.follow c depth) l with graph := later } := by
    induction callers with
    | nil => intro l other _ hother _ hdoc'; exact ⟨other, hother, hdoc', rfl⟩
    | cons f callers ih =>
        intro l other hl hother hdoc hdoc'
        have hf := hagree f List.mem_cons_self
        rw [← hdoc, ← hdoc'] at hf
        obtain ⟨next, hnext, hnextDoc, hstep⟩ :=
          follow_exchange depth hl hother hf
        obtain ⟨-, hfaithful, hsame⟩ := grown_follow (c := c) depth l f hl
        rw [List.foldl_cons, List.foldl_cons, hstep]
        exact ih (fun g hg => hagree g (List.mem_cons_of_mem _ hg)) _ next
          hfaithful hnext (hsame.trans hdoc) (hnextDoc.trans hdoc')
  exact hrun ⟨s, graph, 0, 0, []⟩ graph' hgraph hgraph' rfl rfl

/-- All rounds in lockstep. The search asks about functions before its last
depth only, so it is enough that the documents agree on those. -/
theorem rounds_exchange (hnodup : doc.names.Nodup) (left : Nat) {k : Nat}
    {graph graph' : CallGraph} {s : Selection} (hgraph : graph.Faithful)
    (hgraph' : graph'.Faithful) (hdoc : graph.document = doc)
    (hdoc' : graph'.document = doc') (h : Layered c doc start k s)
    (hagree : ∀ f m, m < k + left → AtDistance c doc start m f →
      Agree c doc doc' f) :
    ∃ later : CallGraph, rounds c left k graph' s =
      { rounds c left k graph s with graph := later } := by
  induction left generalizing k graph graph' s with
  | zero => exact ⟨graph', rfl⟩
  | succ left ih =>
      have hcallers : ∀ f ∈ s.atDepth k,
          Agree c graph.document graph'.document f := by
        intro f hf
        obtain ⟨-, hdist⟩ := (h.depths f k).1 (Selection.mem_atDepth.1 hf)
        rw [hdoc, hdoc']
        exact hagree f k (by omega) hdist
      obtain ⟨next, hnext, hnextDoc, hlayer⟩ :=
        layer_exchange (k + 1) s hgraph hgraph' hcallers
      obtain ⟨hgrown, hfaithful, hsame⟩ :=
        grown_layer (c := c) (k + 1) graph hgraph s (s.atDepth k)
      rw [hdoc] at hgrown hsame
      obtain ⟨later, hlater⟩ := ih hfaithful hnext hsame
        (hnextDoc.trans hdoc') (h.step hnodup hgrown)
        (fun f m hm => hagree f m (by omega))
      unfold rounds
      split
      · exact ⟨graph', rfl⟩
      · refine ⟨later, ?_⟩
        simp only [hlayer, hlater]

/-! ## A document that keeps what matters -/

/-- The functions of `doc'` are those of `doc` that `kept` lets through. -/
def Keeps (kept : String → Bool) (doc doc' : Document) : Prop :=
  doc'.functions = doc.functions.filter fun f => kept f.1

namespace Keeps

variable {kept : String → Bool}

theorem names (h : Keeps kept doc doc') :
    doc'.names = doc.names.filter kept := by
  rw [Document.names, Document.names, h, List.filter_map]
  rfl

theorem contains (h : Keeps kept doc doc') {f : String} (hf : kept f = true) :
    doc'.contains f = doc.contains f := by
  rw [Bool.eq_iff_iff, Document.contains_iff, Document.contains_iff, h.names,
    List.mem_filter]
  exact ⟨And.left, fun hmem => ⟨hmem, hf⟩⟩

theorem contains_of_undefined (h : Keeps kept doc doc') {f : String}
    (hf : doc.contains f = false) : doc'.contains f = false := by
  rw [← Bool.not_eq_true, Document.contains_iff] at hf ⊢
  rw [h.names]
  exact fun hmem => hf (List.mem_filter.1 hmem).1

theorem lookup (h : Keeps kept doc doc') {f : String} (hf : kept f = true) :
    doc'.functions.lookup f = doc.functions.lookup f := by
  rw [h, lookup_filter_key, if_pos hf]

/-- Dropping what is not kept is not noticed by a filter that asks for less. -/
theorem filter_filter_of_imp {α : Type} {xs : List α} {kept wanted : α → Bool}
    (h : ∀ x ∈ xs, wanted x = true → kept x = true) :
    (xs.filter kept).filter wanted = xs.filter wanted := by
  rw [List.filter_filter]
  refine List.filter_congr fun x hx => ?_
  cases hwanted : wanted x with
  | false => rfl
  | true => rw [h x hx hwanted]; rfl

/-- Criteria find the same candidates if all of them are kept. -/
theorem candidates (h : Keeps kept doc doc')
    (hcand : ∀ name ∈ c.candidates doc, kept name = true) :
    c.candidates doc' = c.candidates doc := by
  have hkept : ∀ name ∈ c.asked doc, c.ignores name = false →
      kept name = true := fun name hname hign =>
    hcand name (Criteria.mem_candidates.2 ⟨hname, hign⟩)
  unfold Criteria.candidates Criteria.asked
  simp only [List.filter_append, List.filter_flatMap]
  refine congrArg₂ _ (congrArg₂ _ ?_ ?_) ?_
  · rw [List.filter_filter, List.filter_filter]
    refine List.filter_congr fun name hname => ?_
    cases hign : c.ignores name with
    | true => rfl
    | false =>
        cases hdef : doc.contains name with
        | false => rw [h.contains_of_undefined hdef]
        | true =>
            rw [h.contains (hkept name
              (Criteria.mem_asked.2 (.inl ⟨hname, hdef⟩)) hign), hdef]
  · refine List.flatMap_congr fun p hp => ?_
    rw [h.names, List.filter_filter, filter_filter_of_imp, List.filter_filter]
    intro name hname hwanted
    obtain ⟨hign, hmatch⟩ := Bool.and_eq_true_iff.1 hwanted
    exact hkept name (Criteria.mem_asked.2
      (.inr (.inl ⟨hname, p, hp, hmatch⟩))) (by simpa using hign)
  · refine List.flatMap_congr fun p hp => ?_
    rw [h, List.filter_map, List.filter_map, List.filter_filter,
      filter_filter_of_imp, List.filter_filter]
    intro f hf hwanted
    obtain ⟨hign, hmatch⟩ := Bool.and_eq_true_iff.1 hwanted
    exact hkept f.1 (Criteria.mem_asked.2
      (.inr (.inr ⟨p, hp, f.2, hf, hmatch⟩))) (by simpa using hign)

/-- What a selection holds up to distance `d` is all the search asks for. -/
theorem agree {d : Nat} {s : Selection} (hnodup : doc.names.Nodup)
    (h : Keeps s.contains doc doc') (hs : Layered c doc start d s) {m : Nat}
    (hm : m < d) {f : String} (hf : AtDistance c doc start m f) :
    Agree c doc doc' f := by
  have hsel : ∀ {n g}, n ≤ d → AtDistance c doc start n g →
      s.contains g = true := fun hn hdist =>
    Selection.contains_iff_depth?.2 ⟨_, (hs.depths _ _).2 ⟨hn, hdist⟩⟩
  have hkept := hsel hm.le hf
  refine ⟨h.contains hkept, ?_, fun g hg hign => ?_⟩
  · rw [Document.calleesOf, Document.calleesOf, h.lookup hkept]
  · cases hdef : doc.contains g with
    | false => exact h.contains_of_undefined hdef
    | true =>
        -- The first run would have selected `g` one step behind `f`.
        have hreached : Reached c doc start (m + 1) g :=
          reached_succ.2 ⟨⟨f, hf.1, (Document.mem_calleesOf hnodup).1 hg⟩,
            hdef, hign⟩
        obtain ⟨n, hn, hdist⟩ := exists_atDistance hreached
        rw [h.contains (hsel (by omega) hdist), hdef]

end Keeps

/-! ## The second run -/

/-- Selecting and expanding on a document that has just been read. -/
def Criteria.grow (c : Criteria) (doc : Document) (limit d : Nat) : Expansion :=
  c.expand (CallGraph.ofDocument doc) (c.select doc limit).1 d

theorem layered_grow (hnodup : doc.names.Nodup) (c : Criteria)
    (limit d : Nat) :
    Layered c doc (fun f => (c.select doc limit).1.contains f = true) d
      (c.grow doc limit d).selection :=
  layered_expand hnodup c limit (CallGraph.faithful_ofDocument doc) rfl d

/-- On a document that keeps what is selected, the same is selected and grown. -/
theorem grow_keeps (hnodup : doc.names.Nodup) {limit d : Nat}
    (h : Keeps (c.grow doc limit d).selection.contains doc doc') :
    (c.select doc' limit).1 = (c.select doc limit).1 ∧
      ∃ later : CallGraph, c.grow doc' limit d =
        { c.grow doc limit d with graph := later } := by
  have hlayered := layered_grow hnodup c limit d
  have hselect : (c.select doc' limit).1 = (c.select doc limit).1 := by
    rw [Criteria.select_fst, Criteria.select_fst, h.candidates]
    intro name hname
    have hstart := (layered_select c doc limit).depths name 0
    rw [Criteria.depth?_select] at hstart
    obtain ⟨-, hdist⟩ := hstart.1 ⟨hname, rfl⟩
    exact Selection.contains_iff_depth?.2
      ⟨0, (hlayered.depths name 0).2 ⟨Nat.zero_le d, hdist⟩⟩
  refine ⟨hselect, ?_⟩
  rw [Criteria.grow, hselect]
  refine rounds_exchange hnodup d (CallGraph.faithful_ofDocument doc)
    (CallGraph.faithful_ofDocument doc') rfl rfl
    (layered_select c doc limit) ?_
  intro f m hm hf
  exact h.agree hnodup hlayered (by omega) hf

/-! ## The second text -/

/-- The lines of an excerpt that are not empty. -/
theorem filter_foldl_append (bodies : List (List String)) (out : List String) :
    (bodies.foldl Excerpt.append out).filter (· != "") =
      (out ++ bodies.flatten).filter (· != "") := by
  induction bodies generalizing out with
  | nil => simp
  | cons body bodies ih =>
      rw [List.foldl_cons, ih, Excerpt.append, List.flatten_cons]
      split <;> simp

theorem filter_excerpt_again {s : Selection} (hnodup : doc.names.Nodup)
    (hback : Document.ReadBack doc s doc') :
    (Excerpt.lines doc' s).filter (· != "") =
      (Excerpt.lines doc s).filter (· != "") := by
  have hkeeps : Keeps s.contains doc doc' := hback.functions
  have hnodup' : doc'.names.Nodup := by
    rw [hkeeps.names]
    exact hnodup.filter _
  have hselected : doc'.selected s = doc.selected s := by
    rw [Document.selected, hback.functions, Document.selected,
      List.filter_filter]
    simp
  obtain ⟨k, hk⟩ := hback.preamble
  rw [Document.lines_excerpt hnodup', Document.lines_excerpt hnodup,
    filter_foldl_append, filter_foldl_append, hselected, hk]
  simp

/-- Extracting from an excerpt with the same criteria and depth succeeds. It
selects the same functions directly, grows to the same functions with the same
depths in the same order, the same external names and the same figures, and its
text has the same lines, empty ones apart. -/
theorem extract_again {text : String} {doc : Document}
    (h : Document.parse text = .ok doc)
    (hreturn : ∀ line ∈ Text.lines text, Text.endsInReturn line = false)
    (c : Criteria) (limit d : Nat) :
    let first := c.grow doc limit d
    ∃ doc', Document.parse (Excerpt.render doc first.selection) = .ok doc' ∧
      let second := c.grow doc' limit d
      (c.select doc' limit).1 = (c.select doc limit).1 ∧
      (second.selection.inDocumentOrder doc').map
          (fun name => (name, second.selection.depth? name)) =
        (first.selection.inDocumentOrder doc).map
          (fun name => (name, first.selection.depth? name)) ∧
      second.selection.external = first.selection.external ∧
      second.stats = first.stats ∧
      (Text.lines (Excerpt.render doc' second.selection)).filter (· != "") =
        (Text.lines (Excerpt.render doc first.selection)).filter
          (· != "") := by
  intro first
  have hnodup := Document.names_nodup h
  have hclean := Document.cleanLines_of_parse h hreturn
  obtain ⟨doc', hparse, hback⟩ :=
    Document.readBack_render h hclean first.selection
  have hkeeps : Keeps first.selection.contains doc doc' := hback.functions
  obtain ⟨hselect, later, hgrow⟩ := grow_keeps hnodup hkeeps
  have hclean' : doc'.CleanLines := by
    intro line hline
    rw [hback.lines] at hline
    exact Document.clean_excerpt hclean hline
  refine ⟨doc', hparse, hselect, ?_, ?_, ?_, ?_⟩
  · rw [hgrow, Document.inDocumentOrder_eq (Document.names_nodup hparse),
      Document.inDocumentOrder_eq hnodup, hkeeps.names, List.filter_filter]
    simp only [first, Bool.and_self]
  · rw [hgrow]
  · rw [hgrow]
  · rw [hgrow, Document.lines_render hclean', Document.lines_render hclean]
    exact filter_excerpt_again hnodup hback

theorem extract_again_sample :
    let c : Criteria := ⟨["a"], .empty, .empty, .empty⟩
    let first := c.grow Document.sample 10 1
    Document.parse Document.sampleText = .ok Document.sample ∧
      (∀ line ∈ Text.lines Document.sampleText,
        Text.endsInReturn line = false) ∧
      ∃ doc', Document.parse (Excerpt.render Document.sample first.selection) =
          .ok doc' ∧
        (c.grow doc' 10 1).stats = first.stats := by
  intro c first
  obtain ⟨doc', hparse, -, -, -, hstats, -⟩ :=
    extract_again Document.parse_sampleText Document.returns_sampleText c 10 1
  exact ⟨Document.parse_sampleText, Document.returns_sampleText, doc', hparse,
    hstats⟩

end IrExcerpt
