import IrExcerpt.Proofs.ExpansionFigures
import IrExcerpt.Proofs.TextBytes
import IrExcerpt.Selection.Change

/-!
# What a selection has kept of its changes

A selection can be asked for the depth of a name, for the names at a depth, for
all names in document order and for their number. None of these answers depends
on how the changes were mixed: of the names they inserted, each counts once, with
the depth of the change that came first.

`Reflects` says this of the two tables that a selection consists of. A change in
hand preserves it, whatever it is, because the first depth found in a longer list
of changes is the one found in the front of it, if there is one; and that is how
`insert` combines the old depth of a name with the new one. All that can be asked
follows from the tables. The lists of names are put together in different ways,
by sorting and by going through the document, but a list without repetitions is
known, up to its order, by what is in it.
-/

namespace IrExcerpt.Selection

/-! ## The names in a list of changes -/

/-- The name that a change inserts. -/
def Change.inserted? : Change → Option String
  | .insert name _ => some name
  | .markExternal _ => none

/-- The name that a change notes as external. -/
def Change.marked? : Change → Option String
  | .insert _ _ => none
  | .markExternal name => some name

/-- The depth at which a change inserts a name. -/
def Change.depthOf? (name : String) : Change → Option Nat
  | .insert other depth => if name = other then some depth else none
  | .markExternal _ => none

/-- The names that changes insert, each as often as they do. -/
def inserted (changes : List Change) : List String :=
  changes.filterMap Change.inserted?

/-- The names that changes note as external, each as often as they do. -/
def marked (changes : List Change) : List String :=
  changes.filterMap Change.marked?

/-- The depth at which a name is inserted first. -/
def firstDepth? (changes : List Change) (name : String) : Option Nat :=
  changes.findSome? (Change.depthOf? name)

variable {s : Selection} {changes before : List Change} {name : String} {d : Nat}

theorem Change.depthOf?_eq_some_iff {change : Change} :
    change.depthOf? name = some d ↔ change = .insert name d := by
  cases change with
  | insert other depth =>
      simp only [depthOf?, Option.ite_none_right_eq_some, Option.some.injEq,
        insert.injEq]
      exact and_congr_left fun _ => eq_comm
  | markExternal other => simp [depthOf?]

theorem mem_inserted : name ∈ inserted changes ↔ ∃ d, .insert name d ∈ changes := by
  rw [inserted, List.mem_filterMap]
  constructor
  · intro h
    obtain ⟨change, hmem, hname⟩ := h
    cases change with
    | insert other depth =>
        cases hname
        exact ⟨depth, hmem⟩
    | markExternal other => cases hname
  · intro h
    obtain ⟨d, hmem⟩ := h
    exact ⟨_, hmem, rfl⟩

theorem firstDepth?_eq_none_iff :
    firstDepth? changes name = none ↔ name ∉ inserted changes := by
  rw [firstDepth?, List.findSome?_eq_none_iff, mem_inserted, not_exists]
  constructor
  · intro h d hmem
    have hnone := h _ hmem
    simp [Change.depthOf?] at hnone
  · intro h change hmem
    rw [Option.eq_none_iff_forall_ne_some]
    intro d hd
    exact h d (Change.depthOf?_eq_some_iff.1 hd ▸ hmem)

/-- The first depth is that of a change with no insertion of the name in front. -/
theorem firstDepth?_eq_some_iff :
    firstDepth? changes name = some d ↔ ∃ before later,
      changes = before ++ .insert name d :: later ∧ name ∉ inserted before := by
  rw [firstDepth?, List.findSome?_eq_some_iff]
  simp only [← List.findSome?_eq_none_iff, ← firstDepth?_eq_none_iff, firstDepth?,
    Change.depthOf?_eq_some_iff]
  constructor
  · intro h
    obtain ⟨before, change, later, heq, hchange, hnone⟩ := h
    exact ⟨before, later, hchange ▸ heq, hnone⟩
  · intro h
    obtain ⟨before, later, heq, hnone⟩ := h
    exact ⟨before, _, later, heq, rfl, hnone⟩

theorem exists_firstDepth?_iff :
    (∃ d, firstDepth? changes name = some d) ↔ name ∈ inserted changes := by
  rw [← Option.ne_none_iff_exists', Ne, firstDepth?_eq_none_iff, not_not]

theorem mem_of_firstDepth? (h : firstDepth? changes name = some d) :
    .insert name d ∈ changes := by
  obtain ⟨before, later, rfl, -⟩ := firstDepth?_eq_some_iff.1 h
  exact List.mem_append_right _ List.mem_cons_self

/-- A further change gives a depth to names that have none. -/
theorem firstDepth?_concat (changes : List Change) (change : Change) (name : String) :
    firstDepth? (changes ++ [change]) name =
      (firstDepth? changes name).or (change.depthOf? name) := by
  rw [firstDepth?, List.findSome?_append, List.findSome?_singleton, firstDepth?]

theorem mem_marked_concat {change : Change} :
    name ∈ marked (changes ++ [change]) ↔
      name ∈ marked changes ∨ change.marked? = some name := by
  simp [marked]

/-! ## Every change keeps the account -/

/-- The selection holds what the changes have brought, and nothing else. -/
structure Reflects (s : Selection) (changes : List Change) : Prop where
  depths : ∀ name, s.depth? name = firstDepth? changes name
  external : ∀ name, name ∈ s.external ↔ name ∈ marked changes

theorem reflects_empty : empty.Reflects [] where
  depths _ := rfl
  external _ := Iff.rfl

theorem Reflects.apply (h : s.Reflects before) (change : Change) :
    (s.apply change).2.Reflects (before ++ [change]) := by
  cases change with
  | insert name depth =>
      refine ⟨fun a => ?_, fun a => ?_⟩
      · show (s.insert name depth).depth? a = _
        rw [depth?_insert, h.depths, firstDepth?_concat]
        rfl
      · show a ∈ (s.insert name depth).external ↔ _
        rw [external_insert, h.external, mem_marked_concat]
        simp [Change.marked?]
  | markExternal name =>
      refine ⟨fun a => ?_, fun a => ?_⟩
      · show (s.markExternal name).depth? a = _
        rw [depth?_markExternal, h.depths, firstDepth?_concat]
        simp [Change.depthOf?]
      · show a ∈ (s.markExternal name).external ↔ _
        rw [mem_external_markExternal, h.external, mem_marked_concat, or_comm]
        simp [Change.marked?, eq_comm]

theorem Reflects.applyAll (h : s.Reflects before) (changes : List Change) :
    (s.applyAll changes).2.Reflects (before ++ changes) := by
  induction changes generalizing s before with
  | nil => rwa [List.append_nil]
  | cons change rest ih =>
      have hrest := ih (h.apply change)
      rwa [List.append_assoc] at hrest

theorem reflects_applyAll (changes : List Change) :
    (empty.applyAll changes).2.Reflects changes :=
  reflects_empty.applyAll changes

/-! ## Answers -/

/-- What a change is answered depends on the changes in front of it. -/
theorem getElem?_fst_applyAll (s : Selection) (before : List Change)
    (change : Change) (later : List Change) :
    (s.applyAll (before ++ change :: later)).1[before.length]? =
      some ((s.applyAll before).2.apply change).1 := by
  induction before generalizing s with
  | nil => rfl
  | cons first rest ih => exact ih (s.apply first).2

theorem Reflects.contains (h : s.Reflects changes) :
    s.contains name = decide (name ∈ inserted changes) := by
  rw [Bool.eq_iff_iff, decide_eq_true_eq, contains_iff_depth?, h.depths,
    exists_firstDepth?_iff]

theorem Reflects.isExternal (h : s.Reflects changes) :
    s.isExternal name = decide (name ∈ marked changes) := by
  rw [Bool.eq_iff_iff, decide_eq_true_eq, ← h.external]
  exact List.contains_iff_mem

theorem depths_insert (s : Selection) (name : String) (depth : Nat) :
    (s.insert name depth).depths =
      if s.contains name then s.depths else (name, depth) :: s.depths := by
  unfold Selection.insert
  split <;> rfl

/-- What is noted as external has no influence on the depths. -/
theorem depths_applyAll_eq {t : Selection} (h : s.depths = t.depths)
    (changes : List Change) :
    (s.applyAll changes).2.depths =
      (t.applyAll (changes.filter fun c => c.inserted?.isSome)).2.depths := by
  induction changes generalizing s t with
  | nil => exact h
  | cons change rest ih =>
      cases change with
      | markExternal name => exact ih h
      | insert name depth =>
          refine ih (s := s.insert name depth) (t := t.insert name depth) ?_
          have hcontains : s.contains name = t.contains name := by
            rw [Selection.contains, Selection.contains, depth?, depth?, h]
          rw [depths_insert, depths_insert, hcontains, h]

/-! ## Enumerations -/

theorem Reflects.perm_names (h : s.Reflects changes) :
    (s.depths.map Prod.fst).Perm (inserted changes).dedup := by
  refine (List.perm_ext_iff_of_nodup s.distinct (List.nodup_dedup _)).2
    fun name => ?_
  rw [← contains_iff_mem, h.contains, decide_eq_true_eq, List.mem_dedup]

theorem Reflects.size (h : s.Reflects changes) :
    s.size = (inserted changes).toFinset.card := by
  rw [Selection.size, ← List.length_map Prod.fst, h.perm_names.length_eq,
    List.card_toFinset]

theorem pairwise_atDepth (s : Selection) (d : Nat) :
    (s.atDepth d).Pairwise fun a b => a.toUTF8.toList < b.toUTF8.toList :=
  (NameSet.ordered_ofList _).imp Text.lt_iff_toUTF8_lt.1

/-- The names at all depths below a bound that no insertion reaches are the
inserted names, each once. -/
theorem Reflects.perm_atDepth (h : s.Reflects changes) {bound : Nat}
    (hbound : ∀ name d, .insert name d ∈ changes → d < bound) :
    ((List.range bound).flatMap s.atDepth).Perm (inserted changes).dedup := by
  have hnodup : ((List.range bound).flatMap s.atDepth).Nodup := by
    refine List.nodup_flatMap.2 ⟨fun d _ => s.nodup_atDepth d,
      List.nodup_range.imp fun {d e} hne name hd he => hne ?_⟩
    rw [mem_atDepth] at hd he
    rw [hd] at he
    exact Option.some.inj he
  refine (List.perm_ext_iff_of_nodup hnodup (List.nodup_dedup _)).2 fun name => ?_
  rw [List.mem_dedup, List.mem_flatMap]
  simp only [List.mem_range, mem_atDepth, h.depths, ← exists_firstDepth?_iff]
  refine exists_congr fun d => and_iff_right_of_imp fun hd => ?_
  exact hbound name d (mem_of_firstDepth? hd)

/-- A depth that no name is inserted at has no names. -/
theorem Reflects.atDepth_eq_nil (h : s.Reflects changes)
    (hd : ∀ name, .insert name d ∉ changes) : s.atDepth d = [] := by
  rw [List.eq_nil_iff_forall_not_mem]
  intro name hname
  rw [mem_atDepth, h.depths] at hname
  exact hd name (mem_of_firstDepth? hname)

theorem Reflects.inDocumentOrder (h : s.Reflects changes) {doc : Document}
    (hnodup : doc.names.Nodup) :
    s.inDocumentOrder doc =
      (doc.definitions.map Definition.name).filter (· ∈ inserted changes) := by
  rw [Document.inDocumentOrder_eq hnodup, Document.names_eq]
  exact List.filter_congr fun name _ => h.contains

/-- What a selection answers, after any sequence of changes and along with it.
The first insertion of a name is news and gives the name its depth, and the first
time that a name is noted as external is news; any other change is not. The depths
are those that come of the insertions alone. There are as many selected names as
different names were inserted. The names at a depth are those that have it,
strictly in the order of their bytes, and the lists of all depths together hold
every inserted name once. In document order there stand the names of the
document's functions as the document has them, without those that were not
inserted. -/
theorem kept_of_changes {text : String} {doc : Document}
    (hparse : Document.parse text = .ok doc) (changes : List Change) :
    let answers := (empty.applyAll changes).1
    let s := (empty.applyAll changes).2
    (∀ before name d later, changes = before ++ .insert name d :: later →
      answers[before.length]? = some (decide (name ∉ inserted before))) ∧
    (∀ before name later, changes = before ++ .markExternal name :: later →
      answers[before.length]? = some (decide (name ∉ marked before))) ∧
    (∀ name d, s.depth? name = some d ↔ ∃ before later,
      changes = before ++ .insert name d :: later ∧ name ∉ inserted before) ∧
    s.depths = (empty.applyAll (changes.filter fun c => c.inserted?.isSome)).2.depths ∧
    s.size = (inserted changes).toFinset.card ∧
    (∀ name d, name ∈ s.atDepth d ↔ s.depth? name = some d) ∧
    (∀ d, (s.atDepth d).Pairwise fun a b => a.toUTF8.toList < b.toUTF8.toList) ∧
    (∀ bound, (∀ name d, .insert name d ∈ changes → d < bound) →
      (∀ d ≥ bound, s.atDepth d = []) ∧
        ((List.range bound).flatMap s.atDepth).Perm (inserted changes).dedup) ∧
    s.inDocumentOrder doc =
      (doc.definitions.map Definition.name).filter (· ∈ inserted changes) ∧
    (s.inDocumentOrder doc).Nodup := by
  intro answers s
  have hs : s.Reflects changes := reflects_applyAll changes
  have hnodup := Document.names_nodup hparse
  have horder := hs.inDocumentOrder hnodup
  refine ⟨fun before name d later heq => ?_, fun before name later heq => ?_,
    fun name d => ?_, depths_applyAll_eq rfl changes, hs.size,
    fun name d => mem_atDepth, s.pairwise_atDepth, fun bound hbound => ⟨?_, ?_⟩,
    horder, ?_⟩
  · have hanswer := getElem?_fst_applyAll empty before (.insert name d) later
    rw [← heq] at hanswer
    rw [hanswer, Selection.apply, (reflects_applyAll before).contains, decide_not]
  · have hanswer := getElem?_fst_applyAll empty before (.markExternal name) later
    rw [← heq] at hanswer
    rw [hanswer, Selection.apply, (reflects_applyAll before).isExternal, decide_not]
  · rw [hs.depths, firstDepth?_eq_some_iff]
  · intro d hd
    exact hs.atDepth_eq_nil fun name hmem =>
      absurd (hbound name d hmem) (Nat.not_lt.2 hd)
  · exact hs.perm_atDepth hbound
  · rw [horder, ← Document.names_eq]
    exact hnodup.filter _

/-- Names come in and come in again, defined and undefined ones, and one of them
is noted as external twice. -/
def sampleChanges : List Change :=
  [.insert "b" 2, .markExternal "p", .insert "z" 0, .insert "b" 0, .insert "a" 2,
    .markExternal "p"]

theorem kept_of_changes_sample :
    let answers := (empty.applyAll sampleChanges).1
    let s := (empty.applyAll sampleChanges).2
    Document.parse Document.sampleText = .ok Document.sample ∧
      (∀ name d, .insert name d ∈ sampleChanges → d < 3) ∧
      answers[3]? = some false ∧ answers[5]? = some false ∧
      s.depth? "b" = some 2 ∧ s.size = 3 ∧
      ((List.range 3).flatMap s.atDepth).Perm ["z", "b", "a"] ∧
      s.inDocumentOrder Document.sample = ["a", "b"] := by
  intro answers s
  have hbound : ∀ name d, .insert name d ∈ sampleChanges → d < 3 := by
    intro name d hmem
    simp only [sampleChanges, List.mem_cons, Change.insert.injEq, List.not_mem_nil,
      reduceCtorEq, false_or, or_false] at hmem
    rcases hmem with ⟨-, rfl⟩ | ⟨-, rfl⟩ | ⟨-, rfl⟩ | ⟨-, rfl⟩ <;> decide
  obtain ⟨hinsert, hmark, hdepth, -, hsize, -, -, hall, horder, -⟩ :=
    kept_of_changes Document.parse_sampleText sampleChanges
  refine ⟨Document.parse_sampleText, hbound, ?_, ?_, ?_, hsize, (hall 3 hbound).2, horder⟩
  · exact hinsert (sampleChanges.take 3) "b" 0 _ rfl
  · exact hmark (sampleChanges.take 5) "p" _ rfl
  · exact (hdepth "b" 2).2 ⟨[], _, rfl, by decide⟩

end IrExcerpt.Selection
