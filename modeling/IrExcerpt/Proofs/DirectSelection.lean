import IrExcerpt.Proofs.Lookup
import IrExcerpt.Selection.Direct

/-!
# What is selected directly

Criteria are gone through in three loops that share one growing selection and
tell about it as they go. Without the telling, each loop does one thing: it
inserts names at depth zero, except for those in a set of ignored functions. The
set is filled beforehand, and of functions of the document it says what the ignore
patterns say (`mem_findIgnored`). So the direct selection is one list of names
inserted from left to right, `candidates`, and everything about it can be read
off that list.

The list is given by the functions of the document. Two documents with the same
functions have the same candidates, and leaving out functions that are no
candidates leaves the list as it is.
-/

namespace IrExcerpt

/-- Names inserted one after the other at depth zero. -/
def Selection.insertAll (s : Selection) (names : List String) : Selection :=
  names.foldl (fun s name => s.insert name 0) s

theorem Selection.insertAll_append (s : Selection) (as bs : List String) :
    s.insertAll (as ++ bs) = (s.insertAll as).insertAll bs :=
  List.foldl_append

theorem Selection.depth?_insertAll {s : Selection} {names : List String}
    {a : String} {d : Nat} :
    (s.insertAll names).depth? a = some d ↔
      s.depth? a = some d ∨ s.depth? a = none ∧ a ∈ names ∧ d = 0 := by
  induction names generalizing s with
  | nil => simp [insertAll]
  | cons name names ih =>
      rw [insertAll, List.foldl_cons, ← insertAll, ih, depth?_insert]
      by_cases ha : a = name
      · cases hs : s.depth? a <;> simp [ha, eq_comm]
      · cases hs : s.depth? a <;> simp [ha]

@[simp] theorem Selection.external_insertAll (s : Selection)
    (names : List String) : (s.insertAll names).external = s.external := by
  induction names generalizing s with
  | nil => rfl
  | cons name names ih =>
      rw [insertAll, List.foldl_cons, ← insertAll, ih, external_insert]

namespace Criteria

/-- Whether a pattern matches one of the lines, blanks in front of it apart. -/
def matchesLine (p : Pattern) (body : List String) : Bool :=
  body.any fun line =>
    let text := String.ofList (Text.trimStart line.toList)
    !text.isEmpty && p.isMatch text

/-- The names of a document that the criteria ask for, in the order in which
they are come upon, ignored ones included. -/
def asked (c : Criteria) (doc : Document) : List String :=
  c.names.filter doc.contains ++
    c.namePatterns.patterns.flatMap (fun p => doc.names.filter p.isMatch) ++
    c.linePatterns.patterns.flatMap fun p =>
      (doc.functions.filter fun f => matchesLine p f.2).map Prod.fst

/-- The names to be selected directly, as often as they are come upon. -/
def candidates (c : Criteria) (doc : Document) : List String :=
  (c.asked doc).filter fun name => !c.ignores name

/-! ## What is ignored -/

theorem visitAll_fst {σ : Type} (step : σ → α → σ × List Event)
    (s : σ) (as : List α) :
    (visitAll step s as).1 = as.foldl (fun s a => (step s a).1) s := by
  induction as generalizing s with
  | nil => rfl
  | cons a as ih => rw [visitAll, List.foldl_cons, ← ih]

theorem mem_ignoreMatches {doc : Document} {limit : Nat} {ignored : NameSet}
    {p : Pattern} {name : String} :
    name ∈ (ignoreMatches doc limit ignored p).1 ↔
      name ∈ ignored ∨ name ∈ doc.names ∧ p.isMatch name = true := by
  rw [← List.mem_filter, Document.names_eq]
  unfold ignoreMatches
  dsimp only
  split
  · next hnone => simp [List.isEmpty_iff.1 hnone]
  · exact NameSet.mem_foldl_insert

/-- The functions that are found to be ignored are those that some ignore pattern
matches. -/
theorem mem_findIgnored {c : Criteria} {doc : Document} {limit : Nat}
    {name : String} :
    name ∈ (c.findIgnored doc limit).1 ↔
      name ∈ doc.names ∧ c.ignores name = true := by
  have hall : ∀ (ps : List Pattern) (ignored : NameSet),
      name ∈ ps.foldl (fun set p => (ignoreMatches doc limit set p).1) ignored ↔
        name ∈ ignored ∨ name ∈ doc.names ∧ ∃ p ∈ ps, p.isMatch name = true := by
    intro ps
    induction ps with
    | nil => simp
    | cons p ps ih =>
        intro ignored
        rw [List.foldl_cons, ih, mem_ignoreMatches]
        simp only [List.mem_cons, exists_eq_or_imp, and_or_left, or_assoc]
  rw [findIgnored, visitAll_fst, hall]
  simp [ignores, PatternSet.isMatch]

/-- Of a defined function it does not matter whether the set or the patterns are
asked. -/
theorem contains_findIgnored {c : Criteria} {doc : Document} {limit : Nat}
    {name : String} (h : doc.contains name = true) :
    (c.findIgnored doc limit).1.contains name = c.ignores name := by
  rw [Bool.eq_iff_iff, List.contains_iff_mem, mem_findIgnored,
    and_iff_right (Document.contains_iff.1 h)]

/-! ## The three kinds of criteria -/

section Loops

variable (ignored : NameSet) (doc : Document) (s : Selection)

theorem take_fst (leftOut found : Event) (name : String) :
    (take ignored leftOut found s name).1 =
      if !ignored.contains name then s.insert name 0 else s := by
  unfold take
  cases ignored.contains name with
  | true => rfl
  | false =>
      show (if s.contains name then (s, []) else _ : Selection × List Event).1 =
        s.insert name 0
      split
      · next hsel => rw [Selection.insert, dif_pos hsel]
      · rfl

/-- Going through definitions inserts the names that are not ignored. -/
theorem visitAll_take_fst (step : Selection → α → Selection × List Event)
    (name : α → String)
    (hstep : ∀ s a, (step s a).1 =
      if !ignored.contains (name a) then s.insert (name a) 0 else s)
    (as : List α) :
    (visitAll step s as).1 =
      s.insertAll ((as.map name).filter fun n => !ignored.contains n) := by
  rw [visitAll_fst, Selection.insertAll, List.foldl_filter, List.foldl_map]
  simp only [hstep]

theorem selectName_fst (name : String) :
    (selectName ignored doc s name).1 = s.insertAll
      (([name].filter doc.contains).filter fun n => !ignored.contains n) := by
  unfold selectName
  split
  · next hdef =>
      rw [take_fst, List.filter_cons_of_pos hdef, List.filter_nil,
        List.filter_singleton]
      cases ignored.contains name <;> rfl
  · next hdef => rw [List.filter_cons_of_neg hdef]; rfl

theorem selectMatches_fst (p : Pattern) :
    (selectMatches ignored doc s p).1 = s.insertAll
      ((doc.names.filter p.isMatch).filter fun n => !ignored.contains n) := by
  have hnames : doc.names.filter p.isMatch =
      (doc.definitions.filter fun d => p.isMatch d.name).map
        Definition.name := by
    rw [Document.names_eq, List.filter_map]
    rfl
  rw [hnames]
  unfold selectMatches
  simp only []
  split
  · next hnone =>
      rw [List.isEmpty_iff.1 hnone]
      rfl
  · exact visitAll_take_fst ignored s _ Definition.name
      (fun s d => take_fst ignored s _ _ d.name) _

omit ignored in
theorem matchingLines_isEmpty (p : Pattern) (d : Definition) :
    (matchingLines doc p d).isEmpty = !matchesLine p (doc.body d) := by
  rw [matchingLines, matchesLine]
  generalize doc.body d = body
  induction body with
  | nil => rfl
  | cons line body ih =>
      rw [List.map_cons, List.filter_cons, List.any_cons]
      split
      · next hmatch => simp [hmatch]
      · next hmatch =>
          rw [ih]
          simp only [Bool.not_eq_true] at hmatch
          rw [hmatch, Bool.false_or]

theorem selectForLines_fst (p : Pattern) (found : Definition × List String) :
    (selectForLines ignored p s found).1 =
      if !ignored.contains found.1.name then s.insert found.1.name 0 else s := by
  obtain ⟨d, lines⟩ := found
  rw [selectForLines]
  exact take_fst ignored s (.lineMatchIgnored p.source d.name)
    (.lineMatchFound p.source d.name lines.length) d.name

theorem selectLines_fst (p : Pattern) :
    (selectLines ignored doc s p).1 = s.insertAll
      (((doc.functions.filter fun f => matchesLine p f.2).map
        Prod.fst).filter fun n => !ignored.contains n) := by
  have hnames : (doc.functions.filter fun f => matchesLine p f.2).map Prod.fst =
      ((doc.definitions.map fun d => (d, matchingLines doc p d)).filter
        fun found => !found.2.isEmpty).map fun found => found.1.name := by
    rw [Document.functions, List.filter_map, List.filter_map, List.map_map,
      List.map_map]
    have hsame : ((fun f : String × List String => matchesLine p f.2) ∘
        fun d : Definition => (d.name, doc.body d)) =
        ((fun found : Definition × List String => !found.2.isEmpty) ∘
          fun d => (d, matchingLines doc p d)) := by
      funext d
      simp [matchingLines_isEmpty]
    rw [hsame]
    rfl
  rw [hnames]
  show (if ((doc.definitions.map fun d => (d, matchingLines doc p d)).filter
      fun found => !found.2.isEmpty).isEmpty = true then _ else _ :
    Selection × List Event).1 = _
  split
  · next hnone =>
      rw [List.isEmpty_iff.1 hnone]
      rfl
  · exact visitAll_take_fst ignored s (selectForLines ignored p)
      (fun found => found.1.name)
      (fun s found => selectForLines_fst ignored s p found) _

end Loops

/-- Loops that each insert a list of names insert all the lists in order. -/
theorem foldl_insertAll (f : α → List String) (as : List α) (s : Selection) :
    as.foldl (fun s a => s.insertAll (f a)) s = s.insertAll (as.flatMap f) := by
  induction as generalizing s with
  | nil => rfl
  | cons a as ih =>
      rw [List.foldl_cons, ih, List.flatMap_cons, Selection.insertAll_append]

/-! ## All criteria -/

theorem mem_asked {c : Criteria} {doc : Document} {name : String} :
    name ∈ c.asked doc ↔
      name ∈ c.names ∧ doc.contains name = true ∨
      name ∈ doc.names ∧
        (∃ p ∈ c.namePatterns.patterns, p.isMatch name = true) ∨
      ∃ p ∈ c.linePatterns.patterns, ∃ body,
        (name, body) ∈ doc.functions ∧ matchesLine p body = true := by
  simp only [asked, List.mem_append, List.mem_filter, List.mem_flatMap,
    List.mem_map, or_assoc]
  refine or_congr_right (or_congr ?_ ?_)
  · exact ⟨fun ⟨p, hp, hname, hmatch⟩ => ⟨hname, p, hp, hmatch⟩,
      fun ⟨hname, p, hp, hmatch⟩ => ⟨p, hp, hname, hmatch⟩⟩
  · constructor
    · rintro ⟨p, hp, ⟨m, body⟩, ⟨hmem, hmatch⟩, rfl⟩
      exact ⟨p, hp, body, hmem, hmatch⟩
    · rintro ⟨p, hp, body, hmem, hmatch⟩
      exact ⟨p, hp, (name, body), ⟨hmem, hmatch⟩, rfl⟩

theorem contains_of_mem_asked {c : Criteria} {doc : Document} {name : String}
    (h : name ∈ c.asked doc) : doc.contains name = true := by
  rcases mem_asked.1 h with ⟨-, hdef⟩ | ⟨hname, -⟩ | ⟨p, -, body, hbody, -⟩
  · exact hdef
  · exact Document.contains_iff.2 hname
  · exact Document.contains_iff.2 (List.mem_map.2 ⟨_, hbody, rfl⟩)

/-- The candidates are also found by asking the set of ignored functions. -/
theorem candidates_eq (c : Criteria) (doc : Document) (limit : Nat) :
    c.candidates doc = (c.asked doc).filter fun name =>
      !(c.findIgnored doc limit).1.contains name :=
  List.filter_congr fun _ hname => by
    rw [contains_findIgnored (contains_of_mem_asked hname)]

/-- The direct selection is the candidates inserted in order. -/
theorem select_fst (c : Criteria) (doc : Document) (limit : Nat) :
    (c.select doc limit).1 = Selection.empty.insertAll (c.candidates doc) := by
  have hnames : c.names.flatMap (fun name =>
      ([name].filter doc.contains).filter fun n =>
        !(c.findIgnored doc limit).1.contains n) =
      (c.names.filter doc.contains).filter fun n =>
        !(c.findIgnored doc limit).1.contains n := by
    rw [← List.filter_flatMap, ← List.filter_flatMap, List.flatMap_singleton']
  unfold select
  simp only [visitAll_fst, selectName_fst, selectMatches_fst, selectLines_fst]
  rw [foldl_insertAll, foldl_insertAll, foldl_insertAll, hnames]
  rw [candidates_eq c doc limit, asked, List.filter_append, List.filter_append,
    Selection.insertAll_append, Selection.insertAll_append,
    List.filter_flatMap, List.filter_flatMap]

theorem mem_candidates {c : Criteria} {doc : Document} {name : String} :
    name ∈ c.candidates doc ↔ name ∈ c.asked doc ∧ c.ignores name = false := by
  simp [candidates]

/-- What is selected directly is the candidates, at depth zero. -/
theorem depth?_select {c : Criteria} {doc : Document} {limit : Nat}
    {name : String} {d : Nat} :
    (c.select doc limit).1.depth? name = some d ↔
      name ∈ c.candidates doc ∧ d = 0 := by
  rw [select_fst, Selection.depth?_insertAll]
  simp

theorem contains_select {c : Criteria} {doc : Document} {limit : Nat}
    {name : String} :
    (c.select doc limit).1.contains name = true ↔ name ∈ c.candidates doc := by
  rw [Selection.contains_iff_depth?]
  simp [depth?_select]

theorem external_select (c : Criteria) (doc : Document) (limit : Nat) :
    (c.select doc limit).1.external = [] := by
  rw [select_fst, Selection.external_insertAll]
  rfl

end Criteria

end IrExcerpt
