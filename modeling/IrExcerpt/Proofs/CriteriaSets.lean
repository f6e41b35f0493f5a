import IrExcerpt.Proofs.IgnoredFunctions

/-!
# Criteria are sets

Names and patterns come as lists, but the order in which they are written and
how often should not matter. It does matter on the way: the first pattern that
fails is the one that is blamed, and functions are inserted into the selection
in the order in which the criteria find them. What is left at the end is
decided by membership alone.

Two observations carry this. A list of patterns compiles if each of them does,
and holds what they compile to (`mem_compile`). And a selection that was filled
in another order looks the same (`Selection.Same`); a search only looks at it,
and at the criteria only through the names that they ignore.
-/

namespace IrExcerpt

open Expansion

/-! ## Compiling -/

theorem mem_firstOccurrences {a : String} {texts : List String} :
    a ∈ firstOccurrences texts ↔ a ∈ texts := by
  induction texts with
  | nil => rfl
  | cons text texts ih =>
      rw [firstOccurrences, List.mem_cons, List.mem_cons, List.mem_filter, ih]
      by_cases ha : a = text <;> simp [ha]

namespace PatternSet

theorem compileEach_eq_ok_iff {sources : List String} {ps : List Pattern} :
    compileEach sources = .ok ps ↔
      sources.map Pattern.compile? = ps.map some := by
  induction sources generalizing ps with
  | nil => cases ps <;> simp [compileEach]
  | cons source sources ih =>
      rw [compileEach]
      cases hsource : Pattern.compile? source with
      | none => cases ps <;> simp [hsource]
      | some p =>
          cases hrest : compileEach sources with
          | error bad =>
              have hnone : ∀ qs : List Pattern,
                  sources.map Pattern.compile? ≠ qs.map some := by
                intro qs hqs
                rw [ih.2 hqs] at hrest
                cases hrest
              cases ps <;> simp [hnone]
          | ok qs =>
              have hqs := ih.1 hrest
              cases ps with
              | nil => simp
              | cons q ps =>
                  have hinj : qs.map some = ps.map some ↔ qs = ps :=
                    (List.map_injective_iff.2 (Option.some_injective _)).eq_iff
                  simp [hsource, hqs, hinj]

theorem compile_eq_ok_iff {sources : List String} {set : PatternSet} :
    compile sources = .ok set ↔ (firstOccurrences sources).map Pattern.compile? =
      set.patterns.map some := by
  rw [← compileEach_eq_ok_iff, compile]
  cases compileEach (firstOccurrences sources) with
  | error bad => simp [Except.map]
  | ok ps =>
      cases set
      simp [Except.map]

/-- What is compiled is what the sources compile to. -/
theorem mem_compile {sources : List String} {set : PatternSet}
    (h : compile sources = .ok set) {p : Pattern} :
    p ∈ set.patterns ↔ ∃ source ∈ sources, Pattern.compile? source = some p := by
  have hsome : some p ∈ set.patterns.map some ↔ p ∈ set.patterns := by simp
  rw [← hsome, ← compile_eq_ok_iff.1 h, List.mem_map]
  simp only [mem_firstOccurrences]

/-- Patterns compile together if they compile one by one. -/
theorem exists_compile {sources : List String} :
    (∃ set, compile sources = .ok set) ↔
      ∀ source ∈ sources, ∃ p, Pattern.compile? source = some p := by
  constructor
  · rintro ⟨set, h⟩ source hsource
    have hmem : Pattern.compile? source ∈ set.patterns.map some := by
      rw [← compile_eq_ok_iff.1 h]
      exact List.mem_map_of_mem (mem_firstOccurrences.2 hsource)
    obtain ⟨p, -, hp⟩ := List.mem_map.1 hmem
    exact ⟨p, hp.symm⟩
  · intro h
    refine ⟨⟨(firstOccurrences sources).filterMap Pattern.compile?⟩,
      compile_eq_ok_iff.2 ?_⟩
    rw [List.map_filterMap_some_eq_filter_map_isSome, eq_comm,
      List.filter_eq_self]
    intro compiled hcompiled
    obtain ⟨source, hsource, rfl⟩ := List.mem_map.1 hcompiled
    obtain ⟨p, hp⟩ := h source (mem_firstOccurrences.1 hsource)
    rw [hp]
    rfl

end PatternSet

namespace Criteria

theorem patterns_eq_ok_iff {sources : List String} {set : PatternSet} :
    patterns sources = .ok set ↔ PatternSet.compile sources = .ok set := by
  rw [patterns]
  cases PatternSet.compile sources <;> simp [Except.mapError]

theorem ofTexts_eq_ok_iff {names namePatterns linePatterns ignorePatterns : List String}
    {c : Criteria} :
    ofTexts names namePatterns linePatterns ignorePatterns = .ok c ↔
      (names ≠ [] ∨ namePatterns ≠ [] ∨ linePatterns ≠ []) ∧
      c.names = firstOccurrences names ∧
      PatternSet.compile namePatterns = .ok c.namePatterns ∧
      PatternSet.compile linePatterns = .ok c.linePatterns ∧
      PatternSet.compile ignorePatterns = .ok c.ignorePatterns := by
  simp only [← patterns_eq_ok_iff]
  rw [ofTexts]
  cases hnone : names.isEmpty && namePatterns.isEmpty && linePatterns.isEmpty with
  | true =>
      have hasked : ¬ (names ≠ [] ∨ namePatterns ≠ [] ∨ linePatterns ≠ []) := by
        simpa [and_assoc] using hnone
      simp only [hasked, false_and, iff_false]
      intro h
      cases h
  | false =>
      have hasked : names ≠ [] ∨ namePatterns ≠ [] ∨ linePatterns ≠ [] := by
        rwa [Bool.and_eq_false_iff, Bool.and_eq_false_iff,
          List.isEmpty_eq_false_iff, List.isEmpty_eq_false_iff,
          List.isEmpty_eq_false_iff, or_assoc] at hnone
      simp only [hasked, true_and]
      cases patterns namePatterns with
      | error fault => simp [bind, Except.bind]
      | ok byName =>
          cases patterns linePatterns with
          | error fault => simp [bind, Except.bind]
          | ok byLine =>
              cases patterns ignorePatterns with
              | error fault => simp [bind, Except.bind]
              | ok ignored =>
                  cases c
                  simp [bind, Except.bind, pure, Except.pure, eq_comm]

/-- The criteria hold the same names and patterns. -/
structure Same (c c' : Criteria) : Prop where
  names : ∀ name, name ∈ c'.names ↔ name ∈ c.names
  namePatterns : ∀ p, p ∈ c'.namePatterns.patterns ↔ p ∈ c.namePatterns.patterns
  linePatterns : ∀ p, p ∈ c'.linePatterns.patterns ↔ p ∈ c.linePatterns.patterns
  ignorePatterns : ∀ p,
    p ∈ c'.ignorePatterns.patterns ↔ p ∈ c.ignorePatterns.patterns

/-! ## Texts with the same members -/

section Texts

variable {names names' namePatterns namePatterns' linePatterns linePatterns'
  ignorePatterns ignorePatterns' : List String} {c c' : Criteria}

theorem exists_ofTexts :
    (∃ c, ofTexts names namePatterns linePatterns ignorePatterns = .ok c) ↔
      (names ≠ [] ∨ namePatterns ≠ [] ∨ linePatterns ≠ []) ∧
      (∀ source ∈ namePatterns, ∃ p, Pattern.compile? source = some p) ∧
      (∀ source ∈ linePatterns, ∃ p, Pattern.compile? source = some p) ∧
      ∀ source ∈ ignorePatterns, ∃ p, Pattern.compile? source = some p := by
  simp only [← PatternSet.exists_compile]
  constructor
  · rintro ⟨c, h⟩
    obtain ⟨hasked, -, hname, hline, hignore⟩ := ofTexts_eq_ok_iff.1 h
    exact ⟨hasked, ⟨_, hname⟩, ⟨_, hline⟩, _, hignore⟩
  · rintro ⟨hasked, ⟨byName, hname⟩, ⟨byLine, hline⟩, ignored, hignore⟩
    exact ⟨⟨firstOccurrences names, byName, byLine, ignored⟩,
      ofTexts_eq_ok_iff.2 ⟨hasked, rfl, hname, hline, hignore⟩⟩

theorem same_of_ofTexts
    (hnames : ∀ a, a ∈ names' ↔ a ∈ names)
    (hname : ∀ a, a ∈ namePatterns' ↔ a ∈ namePatterns)
    (hline : ∀ a, a ∈ linePatterns' ↔ a ∈ linePatterns)
    (hignore : ∀ a, a ∈ ignorePatterns' ↔ a ∈ ignorePatterns)
    (h : ofTexts names namePatterns linePatterns ignorePatterns = .ok c)
    (h' : ofTexts names' namePatterns' linePatterns' ignorePatterns' = .ok c') :
    c.Same c' := by
  obtain ⟨-, hasked, hbyName, hbyLine, hignored⟩ := ofTexts_eq_ok_iff.1 h
  obtain ⟨-, hasked', hbyName', hbyLine', hignored'⟩ := ofTexts_eq_ok_iff.1 h'
  constructor
  · intro name
    rw [hasked, hasked', mem_firstOccurrences, mem_firstOccurrences, hnames]
  · intro p
    simp only [PatternSet.mem_compile hbyName, PatternSet.mem_compile hbyName',
      hname]
  · intro p
    simp only [PatternSet.mem_compile hbyLine, PatternSet.mem_compile hbyLine',
      hline]
  · intro p
    simp only [PatternSet.mem_compile hignored,
      PatternSet.mem_compile hignored', hignore]

end Texts

/-! ## Selections by the same criteria -/

namespace Same

variable {c c' : Criteria}

theorem ignores (h : c.Same c') : c'.ignores = c.ignores := by
  funext name
  rw [Bool.eq_iff_iff, Criteria.ignores, Criteria.ignores, PatternSet.isMatch,
    PatternSet.isMatch, List.any_eq_true, List.any_eq_true]
  simp only [h.ignorePatterns]

theorem mem_candidates (h : c.Same c') (doc : Document) (name : String) :
    name ∈ c'.candidates doc ↔ name ∈ c.candidates doc := by
  simp only [Criteria.mem_candidates, Criteria.mem_asked, h.names,
    h.namePatterns, h.linePatterns, h.ignores]

theorem select (h : c.Same c') (doc : Document) (limit : Nat) :
    (c.select doc limit).1.Same (c'.select doc limit).1 where
  depth? name := by
    refine Option.ext fun d => ?_
    rw [depth?_select, depth?_select, h.mem_candidates]
  external := by rw [external_select, external_select]

end Same

end Criteria

/-! ## Searches that ignore the same names -/

section Ignores

variable {c c' : Criteria} (h : c'.ignores = c.ignores)
include h

theorem meet_of_ignores (depth : Nat) (caller : String) :
    Layer.meet c' depth caller = Layer.meet c depth caller := by
  funext l callee
  rw [Layer.meet, Layer.meet, h]

theorem follow_of_ignores (depth : Nat) :
    Layer.follow c' depth = Layer.follow c depth := by
  funext l caller
  rw [Layer.follow, Layer.follow, h, meet_of_ignores h]

/-- A search knows its criteria by what they ignore. -/
theorem rounds_of_ignores (left k : Nat) (graph : CallGraph) (s : Selection) :
    rounds c' left k graph s = rounds c left k graph s := by
  induction left generalizing k graph s with
  | zero => rfl
  | succ left ih =>
      have hlayer : layer c' (k + 1) graph s = layer c (k + 1) graph s := by
        funext callers
        rw [layer, layer, follow_of_ignores h]
      simp only [rounds, hlayer, ih]

end Ignores

theorem Selection.Same.render {doc : Document} (hnodup : doc.names.Nodup)
    {s s' : Selection} (h : s.Same s') :
    Excerpt.render doc s' = Excerpt.render doc s := by
  rw [Excerpt.render, Excerpt.render, Document.inDocumentOrder_eq hnodup,
    Document.inDocumentOrder_eq hnodup,
    funext h.contains]

/-- Criteria are sets. Let two lists of names, of name patterns, of line
patterns and of ignore patterns each have the same members. Then criteria can
be made from either or from neither. If they can, both select the same
functions of every document, find the same functions at the same depths and the
same external names along its calls, with the same figures and having looked at
equally many functions, and give the same excerpt. -/
theorem expand_of_same_members {text : String} {doc : Document}
    (hparse : Document.parse text = .ok doc)
    {names names' namePatterns namePatterns' linePatterns linePatterns'
      ignorePatterns ignorePatterns' : List String}
    (hnames : ∀ a, a ∈ names' ↔ a ∈ names)
    (hname : ∀ a, a ∈ namePatterns' ↔ a ∈ namePatterns)
    (hline : ∀ a, a ∈ linePatterns' ↔ a ∈ linePatterns)
    (hignore : ∀ a, a ∈ ignorePatterns' ↔ a ∈ ignorePatterns) :
    ((∃ c, Criteria.ofTexts names namePatterns linePatterns ignorePatterns =
        .ok c) ↔
      ∃ c', Criteria.ofTexts names' namePatterns' linePatterns' ignorePatterns' =
        .ok c') ∧
    ∀ c c',
      Criteria.ofTexts names namePatterns linePatterns ignorePatterns = .ok c →
      Criteria.ofTexts names' namePatterns' linePatterns' ignorePatterns' =
        .ok c' →
      ∀ (limit depth : Nat) (graph : CallGraph),
        let run := c.expand graph (c.select doc limit).1 depth
        let run' := c'.expand graph (c'.select doc limit).1 depth
        (∀ name, run'.selection.depth? name = run.selection.depth? name) ∧
        run'.selection.external = run.selection.external ∧
        run'.stats = run.stats ∧
        run'.graph.memoized = run.graph.memoized ∧
        Excerpt.render doc run'.selection = Excerpt.render doc run.selection := by
  constructor
  · have hempty : ∀ {l l' : List String}, (∀ a, a ∈ l' ↔ a ∈ l) →
        (l ≠ [] ↔ l' ≠ []) := by
      intro l l' hl
      simp only [ne_eq, List.eq_nil_iff_forall_not_mem, hl]
    simp only [Criteria.exists_ofTexts, hempty hnames, hempty hname,
      hempty hline, hname, hline, hignore]
  · intro c c' h h' limit depth graph run run'
    have hsame := Criteria.same_of_ofTexts hnames hname hline hignore h h'
    have hrun' : run' = rounds c depth 0 graph (c'.select doc limit).1 :=
      rounds_of_ignores hsame.ignores depth 0 graph _
    obtain ⟨hselection, hstats, hgraph⟩ :=
      same_rounds (c := c) (hsame.select doc limit) depth 0 graph
    rw [hrun']
    exact ⟨hselection.depth?, hselection.external, hstats,
      congrArg CallGraph.memoized hgraph,
      hselection.render (Document.names_nodup hparse)⟩

theorem expand_of_same_members_sample :
    ∃ c c',
      Criteria.ofTexts ["a", "x"] ["^b", "b$"] [] ["^p"] = .ok c ∧
      Criteria.ofTexts ["x", "a", "x"] ["b$", "^b", "b$"] [] ["^p", "^p"] =
        .ok c' ∧
      let graph := CallGraph.ofDocument Document.sample
      let run := c.expand graph (c.select Document.sample 10).1 2
      let run' := c'.expand graph (c'.select Document.sample 10).1 2
      (∀ name, run'.selection.depth? name = run.selection.depth? name) ∧
        run'.selection.external = run.selection.external ∧
        run'.stats = run.stats ∧
        run'.graph.memoized = run.graph.memoized ∧
        Excerpt.render Document.sample run'.selection =
          Excerpt.render Document.sample run.selection := by
  have hnames : ∀ a, a ∈ ["x", "a", "x"] ↔ a ∈ ["a", "x"] := by simp
  have hname : ∀ a, a ∈ ["b$", "^b", "b$"] ↔ a ∈ ["^b", "b$"] := by simp
  have hline : ∀ a : String, a ∈ [] ↔ a ∈ [] := fun _ => Iff.rfl
  have hignore : ∀ a, a ∈ ["^p", "^p"] ↔ a ∈ ["^p"] := by simp
  obtain ⟨hiff, hruns⟩ := expand_of_same_members Document.parse_sampleText
    hnames hname hline hignore
  obtain ⟨c, hc⟩ : ∃ c,
      Criteria.ofTexts ["a", "x"] ["^b", "b$"] [] ["^p"] = .ok c := by
    simp only [Criteria.exists_ofTexts, ← Option.isSome_iff_exists]
    decide +kernel
  obtain ⟨c', hc'⟩ := hiff.1 ⟨c, hc⟩
  exact ⟨c, c', hc, hc', hruns c c' hc hc' 10 2 _⟩

end IrExcerpt
