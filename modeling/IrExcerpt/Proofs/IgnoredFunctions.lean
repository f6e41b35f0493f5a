import IrExcerpt.Proofs.LineEnds
import IrExcerpt.Proofs.Reextraction

/-!
# Ignored functions leave no trace

What an ignored function holds must not show: not in what is selected, not in
what is external, not in the figures, and not in the text. The statement is
about two documents that define the same names, in whatever order, and agree on
every function that is not ignored. A run on one is compared with a run on the
other.

Two things differ between the runs. They ask different graphs, and
`rounds_exchange` already says that this does not matter where the documents
agree. And they start from selections that were filled in a different order,
because criteria find functions in document order. The first half of this file
says that the order does not matter either: a selection is looked at through
`depth?` and through its external names alone, and the names of a depth come
sorted, so two selections that look the same stay so (`Selection.Same`).
-/

namespace IrExcerpt

open Expansion

/-- Sets with the same members are the same list. -/
theorem NameSet.eq_of_mem_iff {s t : NameSet} (hs : s.Pairwise (· < ·))
    (ht : t.Pairwise (· < ·)) (h : ∀ a, a ∈ s ↔ a ∈ t) : s = t := by
  have hnodup : ∀ {u : NameSet}, u.Pairwise (· < ·) → u.Nodup := fun hu =>
    hu.imp fun hlt heq => by simp [heq] at hlt
  refine List.Perm.eq_of_pairwise (fun a b _ _ hab hba => ?_) hs ht
    ((List.perm_ext_iff_of_nodup (hnodup hs) (hnodup ht)).2 h)
  exact absurd (String.lt_trans hab hba) (by simp)

/-! ## Selections that look the same -/

/-- The selections hold the same names at the same depths and know the same
names as external. -/
structure Selection.Same (s s' : Selection) : Prop where
  depth? : ∀ name, s'.depth? name = s.depth? name
  external : s'.external = s.external

namespace Selection.Same

variable {s s' : Selection}

theorem contains (h : Same s s') (name : String) :
    s'.contains name = s.contains name := by
  rw [Selection.contains, h.depth?, ← Selection.contains]

theorem isExternal (h : Same s s') (name : String) :
    s'.isExternal name = s.isExternal name := by
  rw [Selection.isExternal, h.external, ← Selection.isExternal]

theorem insert (h : Same s s') (name : String) (depth : Nat) :
    Same (s.insert name depth) (s'.insert name depth) where
  depth? a := by rw [depth?_insert, depth?_insert, h.depth?]
  external := by rw [external_insert, external_insert, h.external]

theorem markExternal (h : Same s s') (name : String) :
    Same (s.markExternal name) (s'.markExternal name) where
  depth? a := by rw [depth?_markExternal, depth?_markExternal, h.depth?]
  external := congrArg (NameSet.insert name) h.external

theorem atDepth (h : Same s s') (depth : Nat) :
    s'.atDepth depth = s.atDepth depth := by
  refine NameSet.eq_of_mem_iff (NameSet.ordered_ofList _)
    (NameSet.ordered_ofList _) fun name => ?_
  rw [mem_atDepth, mem_atDepth, h.depth?]

end Selection.Same

/-- The layers hold selections that look the same, and the same graph and
figures. -/
structure Expansion.Layer.Same (l l' : Layer) : Prop where
  selection : l.selection.Same l'.selection
  graph : l'.graph = l.graph
  added : l'.added = l.added
  ignored : l'.ignored = l.ignored

variable {c : Criteria} {doc doc' : Document} {start : String → Prop}

theorem same_meet {l l' : Layer} (h : l.Same l') (depth : Nat)
    (caller callee : String) :
    (Layer.meet c depth caller l callee).Same
      (Layer.meet c depth caller l' callee) := by
  unfold Layer.meet
  rw [h.selection.contains, h.graph, h.selection.isExternal]
  repeat' split
  · exact h
  · exact ⟨h.selection, rfl, h.added, congrArg (· + 1) h.ignored⟩
  · exact ⟨h.selection.insert callee depth, rfl, congrArg (· + 1) h.added,
      h.ignored⟩
  · exact h
  · exact ⟨h.selection.markExternal callee, rfl, h.added, h.ignored⟩

theorem same_foldl_meet {l l' : Layer} (h : l.Same l') (depth : Nat)
    (caller : String) (callees : List String) :
    (callees.foldl (Layer.meet c depth caller) l).Same
      (callees.foldl (Layer.meet c depth caller) l') := by
  induction callees generalizing l l' with
  | nil => exact h
  | cons callee callees ih => exact ih (same_meet h depth caller callee)

theorem same_follow {l l' : Layer} (h : l.Same l') (depth : Nat)
    (caller : String) :
    (Layer.follow c depth l caller).Same (Layer.follow c depth l' caller) := by
  unfold Layer.follow
  rw [h.graph]
  split
  · refine same_foldl_meet ?_ depth caller _
    exact ⟨h.selection, rfl, h.added, h.ignored⟩
  · exact h

theorem same_layer {s s' : Selection} (h : s.Same s') (depth : Nat)
    (graph : CallGraph) (callers : List String) :
    (layer c depth graph s callers).Same (layer c depth graph s' callers) := by
  have hrun : ∀ l l' : Layer, l.Same l' →
      (callers.foldl (Layer.follow c depth) l).Same
        (callers.foldl (Layer.follow c depth) l') := by
    induction callers with
    | nil => intro l l' hl; exact hl
    | cons caller callers ih =>
        intro l l' hl
        exact ih _ _ (same_follow hl depth caller)
  exact hrun _ _ ⟨h, rfl, rfl, rfl⟩

/-- Searches from selections that look the same end in such selections, with
the same figures, and have asked the graph the same. -/
theorem same_rounds {s s' : Selection} (h : s.Same s') (left k : Nat)
    (graph : CallGraph) :
    (rounds c left k graph s).selection.Same
        (rounds c left k graph s').selection ∧
      (rounds c left k graph s').stats = (rounds c left k graph s).stats ∧
      (rounds c left k graph s').graph = (rounds c left k graph s).graph := by
  induction left generalizing k graph s s' with
  | zero => exact ⟨h, rfl, rfl⟩
  | succ left ih =>
      unfold rounds
      rw [h.atDepth]
      split
      · exact ⟨h, rfl, rfl⟩
      · have hlayer := same_layer (c := c) h (k + 1) graph (s.atDepth k)
        obtain ⟨hsel, hstats, hgraph⟩ := ih hlayer.selection (k + 1)
          (layer c (k + 1) graph s (s.atDepth k)).graph
        simp only [hlayer.graph, hlayer.added, hlayer.ignored]
        exact ⟨hsel, by rw [hstats], hgraph⟩

/-! ## Documents that differ in ignored functions -/

/-- The documents define the same names and agree on every function that is not
ignored. -/
structure AlikeExceptIgnored (c : Criteria) (doc doc' : Document) : Prop where
  names : ∀ name, name ∈ doc'.names ↔ name ∈ doc.names
  bodies : ∀ name, c.ignores name = false →
    doc'.functions.lookup name = doc.functions.lookup name

namespace AlikeExceptIgnored

theorem contains (h : AlikeExceptIgnored c doc doc') (name : String) :
    doc'.contains name = doc.contains name := by
  rw [Bool.eq_iff_iff, Document.contains_iff, Document.contains_iff, h.names]

theorem agree (h : AlikeExceptIgnored c doc doc') {f : String}
    (hf : c.ignores f = false) : Agree c doc doc' f where
  contains := h.contains f
  callees := by rw [Document.calleesOf, Document.calleesOf, h.bodies f hf]
  called g _ _ := h.contains g

theorem mem_candidates (h : AlikeExceptIgnored c doc doc')
    (hnodup : doc.names.Nodup) (hnodup' : doc'.names.Nodup) (name : String) :
    name ∈ c.candidates doc' ↔ name ∈ c.candidates doc := by
  rw [Criteria.mem_candidates, Criteria.mem_candidates]
  refine and_congr_left fun hign => ?_
  simp only [Criteria.mem_asked, h.contains, h.names,
    Document.mem_functions_iff hnodup, Document.mem_functions_iff hnodup',
    h.bodies name hign]

theorem same_select (h : AlikeExceptIgnored c doc doc')
    (hnodup : doc.names.Nodup) (hnodup' : doc'.names.Nodup)
    (limit : Nat) :
    (c.select doc limit).1.Same (c.select doc' limit).1 where
  depth? name := by
    refine Option.ext fun d => ?_
    rw [Criteria.depth?_select, Criteria.depth?_select,
      h.mem_candidates hnodup hnodup']
  external := by rw [Criteria.external_select, Criteria.external_select]

end AlikeExceptIgnored

theorem Layered.of_same {k : Nat} {s s' : Selection}
    (h : Layered c doc start k s) (hsame : s.Same s') :
    Layered c doc start k s' where
  depths g n := by rw [hsame.depth?, h.depths]
  external g := by
    rw [hsame.external, h.external]
    simp only [hsame.depth?]

/-- Runs on documents that differ in ignored functions look the same. -/
theorem same_grow (h : AlikeExceptIgnored c doc doc')
    (hnodup : doc.names.Nodup) (hnodup' : doc'.names.Nodup) (limit d : Nat) :
    (c.grow doc limit d).selection.Same (c.grow doc' limit d).selection ∧
      (c.grow doc' limit d).stats = (c.grow doc limit d).stats := by
  have hselect := h.same_select hnodup hnodup' limit
  -- First the graph is exchanged, then the selection to start from.
  obtain ⟨later, hlater⟩ := rounds_exchange hnodup d
    (CallGraph.faithful_ofDocument doc) (CallGraph.faithful_ofDocument doc')
    rfl rfl ((layered_select c doc limit).of_same hselect)
    fun f m _ hdist => h.agree hdist.admits.2
  obtain ⟨hsame, hstats, -⟩ :=
    same_rounds (c := c) hselect d 0 (CallGraph.ofDocument doc)
  have hgrow : c.grow doc' limit d =
      { rounds c d 0 (CallGraph.ofDocument doc) (c.select doc' limit).1 with
        graph := later } := hlater
  rw [hgrow]
  exact ⟨hsame, hstats⟩

/-! ## The text -/

/-- In documents that list their functions in the same order, the selected ones
are the same, lines included. -/
theorem selected_eq (h : AlikeExceptIgnored c doc doc')
    (hnodup : doc.names.Nodup) (horder : doc'.names = doc.names)
    {s s' : Selection} (hsame : s.Same s')
    (hkept : ∀ name, s.contains name = true → c.ignores name = false) :
    doc'.selected s' = doc.selected s := by
  have hlist : ∀ (d : Document) (t : Selection), d.names.Nodup →
      d.selected t = (d.names.filter t.contains).filterMap fun name =>
        (d.functions.lookup name).map (name, ·) := by
    intro d t hd
    rw [Document.names, List.filter_map, List.filterMap_map, Document.selected,
      ← List.filterMap_some (l := d.functions.filter _)]
    refine List.filterMap_congr fun f hf => ?_
    have hmem : (f.1, f.2) ∈ d.functions := (List.mem_filter.1 hf).1
    rw [Function.comp_apply, (Document.mem_functions_iff hd).1 hmem]
    rfl
  rw [hlist doc' s' (horder ▸ hnodup), hlist doc s hnodup, horder,
    funext hsame.contains]
  refine List.filterMap_congr fun name hname => ?_
  rw [h.bodies name (hkept name (List.mem_filter.1 hname).2)]

/-- Ignored functions neither appear nor influence anything. Let two documents
define the same names and agree on every function that is not ignored. Then the
same names are selected at the same depths, the same names are external and the
figures are the same; and no ignored name is selected or external. If moreover
the functions come in the same order and the lines outside them are the same,
the excerpts are the same text, and no function that it defines is ignored. -/
theorem grow_ignores {text text' : String} {doc doc' : Document}
    (h : Document.parse text = .ok doc) (h' : Document.parse text' = .ok doc')
    (c : Criteria) (limit d : Nat)
    (hnames : ∀ name, name ∈ doc'.names ↔ name ∈ doc.names)
    (hbodies : ∀ name, c.ignores name = false →
      doc'.functions.lookup name = doc.functions.lookup name) :
    let run := c.grow doc limit d
    let run' := c.grow doc' limit d
    (∀ name, run'.selection.depth? name = run.selection.depth? name) ∧
      run'.selection.external = run.selection.external ∧
      run'.stats = run.stats ∧
      (∀ name, c.ignores name = true →
        run.selection.contains name = false ∧
          name ∉ run.selection.external) ∧
      (doc'.names = doc.names →
        Excerpt.preamble doc' = Excerpt.preamble doc →
        Excerpt.render doc' run'.selection = Excerpt.render doc run.selection ∧
          ∃ excerpt,
            Document.parse (Excerpt.render doc run.selection) = .ok excerpt ∧
            ∀ name ∈ excerpt.names, c.ignores name = false) := by
  intro run run'
  have hnodup := Document.names_nodup h
  have hnodup' := Document.names_nodup h'
  have halike : AlikeExceptIgnored c doc doc' := ⟨hnames, hbodies⟩
  obtain ⟨hsame, hstats⟩ := same_grow halike hnodup hnodup' limit d
  have hlayered := layered_grow hnodup c limit d
  have hkept : ∀ name, run.selection.contains name = true →
      c.ignores name = false := by
    intro name hname
    obtain ⟨n, hn⟩ := Selection.contains_iff_depth?.1 hname
    exact ((hlayered.depths name n).1 hn).2.admits.2
  refine ⟨hsame.depth?, hsame.external, hstats, fun name hign => ⟨?_, ?_⟩,
    fun horder hpreamble => ⟨?_, ?_⟩⟩
  · rw [← Bool.not_eq_true]
    intro hname
    rw [hkept name hname] at hign
    cases hign
  · intro hext
    rw [((hlayered.external name).1 hext).2.1] at hign
    cases hign
  · rw [Document.render_eq_unlines h', Document.render_eq_unlines h,
      Document.lines_excerpt hnodup', Document.lines_excerpt hnodup, hpreamble,
      selected_eq halike hnodup horder hsame hkept]
  · obtain ⟨excerpt, hparse, hdefined⟩ :=
      Document.names_of_parse_excerpt h run.selection
    refine ⟨excerpt, hparse, fun name hname => hkept name ?_⟩
    rw [hdefined] at hname
    exact (List.mem_filter.1 hname).2

/-- `Document.sampleText` with another function in the place of `b`. -/
def changedText : String :=
  "define void @a() \x7b\n  call void @b()\n\x7d\n; between\ndeclare void @p()\n" ++
  "define i32 @b(i32 %n) \x7b\n  call void @q()\n\x7d\n"

/-- The document that `changedText` is. -/
def changed : Document where
  lines := ["define void @a() \x7b", "  call void @b()", "\x7d", "; between",
    "declare void @p()", "define i32 @b(i32 %n) \x7b", "  call void @q()",
    "\x7d"]
  entities := [.definition ⟨"a", ⟨1, 3⟩⟩, .other ⟨4, 4⟩,
    .declaration (some "p") 5, .definition ⟨"b", ⟨6, 8⟩⟩]

theorem parse_changedText : Document.parse changedText = .ok changed :=
  ok_of_toOption (by decide +kernel)

/-- Asks for `a` and leaves out what starts with `b`. -/
def withoutB : Criteria :=
  ⟨["a"], .empty, .empty, ⟨(Pattern.compile? "^b").toList⟩⟩

theorem lookup_changed (name : String)
    (hname : withoutB.ignores name = false) :
    changed.functions.lookup name =
      Document.sample.functions.lookup name := by
  have hb : withoutB.ignores "b" = true := by decide +kernel
  have hne : (name == "b") = false := by
    rw [beq_eq_false_iff_ne]
    rintro rfl
    rw [hb] at hname
    cases hname
  have hold : Document.sample.functions =
      [("a", ["define void @a() \x7b", "  call void @b()", "\x7d"]),
        ("b", ["define void @b() \x7b ; \x7d", "  call void @a()",
          "  call void @p()", "\x7d"])] := by
    decide +kernel
  have hnew : changed.functions =
      [("a", ["define void @a() \x7b", "  call void @b()", "\x7d"]),
        ("b", ["define i32 @b(i32 %n) \x7b", "  call void @q()", "\x7d"])] := by
    decide +kernel
  simp only [hold, hnew, List.lookup_cons, hne, List.lookup_nil]

theorem grow_ignores_sample :
    let run := withoutB.grow Document.sample 10 2
    let run' := withoutB.grow changed 10 2
    Document.parse Document.sampleText = .ok Document.sample ∧
      Document.parse changedText = .ok changed ∧
      withoutB.ignores "b" = true ∧
      Document.sample.functions.lookup "b" ≠ changed.functions.lookup "b" ∧
      run.selection.depth? "a" = some 0 ∧
      run'.selection.depth? "a" = some 0 ∧
      run'.stats = run.stats ∧
      Excerpt.render changed run'.selection =
        Excerpt.render Document.sample run.selection := by
  intro run run'
  have hnames : changed.names = Document.sample.names := by decide +kernel
  obtain ⟨hdepth, -, hstats, -, htext⟩ := grow_ignores Document.parse_sampleText
    parse_changedText withoutB 10 2 (fun name => by rw [hnames]) lookup_changed
  have ha : run.selection.depth? "a" = some 0 := by decide +kernel
  refine ⟨Document.parse_sampleText, parse_changedText, by decide +kernel,
    by decide +kernel, ha, (hdepth "a").trans ha, hstats, ?_⟩
  exact (htext hnames (by decide +kernel)).1

end IrExcerpt
