import IrExcerpt.Proofs.ReportEntries
import IrExcerpt.Proofs.SelectedSet

/-!
# The log accounts for the selection

Events are told from inside the loops that fill a selection, in the branches
where something is inserted or marked. So each stretch of a run tells exactly
what it did to the selection. `Accounts` says this of any stretch: the
announcements in it, read backwards, are the entries that have come in front of
the depths, and the external names it reports have been added to those that were
known. Stretches follow each other by `Accounts.trans`, and the empty selection
at the beginning leaves nothing unaccounted for.

Which criterion a function is announced by is another matter, since a function
that is asked for twice is told once. Here it helps that the loops are cut off
easily: just before a pattern is looked at, the selection is that of the criteria
with the patterns in front of it, and what these select is known
(`contains_select_iff`). Warnings do not depend on the selection at all, and are
listed as they come (`missing_select`).
-/

namespace IrExcerpt

open Expansion

namespace Event

/-- The function that is announced as found, with the depth it is found at. -/
def announced? : Event → Option (String × Nat)
  | .nameFound name | .matchFound _ name | .lineMatchFound _ name _ => some (name, 0)
  | .calleeFound depth name => some (name, depth)
  | _ => none

/-- The function that is announced as found by one of the criteria. -/
def foundDirectly? : Event → Option String
  | .nameFound name | .matchFound _ name | .lineMatchFound _ name _ => some name
  | _ => none

/-- The callee that is reported to have no definition. -/
def external? : Event → Option String
  | .calleeExternal _ name => some name
  | _ => none

/-- Whether a name or a pattern is reported to have found nothing. -/
def isMissing : Event → Bool
  | .nameMissing _ | .matchMissing _ | .lineMatchMissing _ | .ignoreUnused _ => true
  | _ => false

theorem announced?_of_foundDirectly? {e : Event} {name : String}
    (h : e.foundDirectly? = some name) : e.announced? = some (name, 0) := by
  cases e <;> cases h <;> rfl

/-- Found functions are told to everyone, external ones only on demand, and what
finds nothing is warned of. -/
theorem levels (e : Event) :
    (e.announced?.isSome → e.level = .info) ∧
      (e.external?.isSome → e.level = .debug) ∧ (e.isMissing → e.level = .warn) := by
  cases e <;> simp [announced?, external?, isMissing, level]

end Event

/-! ## Stretches of a run -/

theorem NameSet.perm_insert {name : String} {s : NameSet} (h : name ∉ s) :
    (NameSet.insert name s).Perm (name :: s) := by
  induction s with
  | nil => exact List.Perm.refl _
  | cons head rest ih =>
      rw [List.mem_cons, not_or] at h
      unfold NameSet.insert
      split
      · exact List.Perm.refl _
      · rw [if_neg h.1]
        exact ((ih h.2).cons head).trans (List.Perm.swap name head rest)

/-- From `s` to `s'` the events tell what has changed. -/
structure Accounts (s s' : Selection) (events : List Event) : Prop where
  depths : s'.depths = (events.filterMap Event.announced?).reverse ++ s.depths
  external : s'.external.Perm (events.filterMap Event.external? ++ s.external)

namespace Accounts

variable {s s' s'' : Selection} {events later : List Event}

/-- Events that announce nothing go with a selection that stays as it is. -/
theorem idle (s : Selection) (hannounced : events.filterMap Event.announced? = [])
    (hexternal : events.filterMap Event.external? = []) :
    Accounts s s events := by
  refine ⟨?_, ?_⟩
  · rw [hannounced]
    rfl
  · rw [hexternal]
    exact List.Perm.refl _

theorem trans (h : Accounts s s' events) (h' : Accounts s' s'' later) :
    Accounts s s'' (events ++ later) := by
  refine ⟨?_, ?_⟩
  · rw [h'.depths, h.depths, List.filterMap_append, List.reverse_append,
      List.append_assoc]
  · rw [List.filterMap_append]
    refine (h'.external.trans (h.external.append_left _)).trans ?_
    rw [← List.append_assoc]
    exact List.perm_append_comm.append_right _

theorem insert {name : String} {depth : Nat} {e : Event}
    (hnew : s.contains name = false) (hannounced : e.announced? = some (name, depth))
    (hexternal : e.external? = none) :
    Accounts s (s.insert name depth) [e] := by
  refine ⟨?_, ?_⟩
  · simp [Selection.insert, hnew, hannounced]
  · simp [hexternal]

theorem markExternal {name caller : String} (hnew : s.isExternal name = false) :
    Accounts s (s.markExternal name) [.calleeExternal caller name] := by
  refine ⟨rfl, NameSet.perm_insert ?_⟩
  simpa [Selection.isExternal] using hnew

/-- A name that is selected stays so. -/
theorem contains (h : Accounts s s' events) {name : String}
    (hname : s.contains name = true) : s'.contains name = true := by
  rw [Selection.contains_iff_mem] at hname ⊢
  rw [h.depths, List.map_append]
  exact List.mem_append_right _ hname

end Accounts

/-! ## The direct selection -/

namespace Criteria

variable {α : Type} {step : Selection → α → Selection × List Event}
  (ignored : NameSet)

omit ignored in
theorem accounts_visitAll
    (hstep : ∀ s a, Accounts s (step s a).1 (step s a).2) (s : Selection)
    (as : List α) :
    Accounts s (visitAll step s as).1 (visitAll step s as).2 := by
  induction as generalizing s with
  | nil => exact .idle s rfl rfl
  | cons a as ih => exact (hstep s a).trans (ih _)

theorem accounts_take {leftOut found : Event} {name : String}
    (hleft : leftOut.announced? = none ∧ leftOut.external? = none)
    (hfound : found.announced? = some (name, 0) ∧ found.external? = none)
    (s : Selection) :
    Accounts s (take ignored leftOut found s name).1
      (take ignored leftOut found s name).2 := by
  unfold take
  split
  · exact .idle s (by simp [hleft.1]) (by simp [hleft.2])
  · split
    · exact .idle s rfl rfl
    · next hsel => exact .insert (by simpa using hsel) hfound.1 hfound.2

theorem accounts_selectName (doc : Document) (s : Selection) (name : String) :
    Accounts s (selectName ignored doc s name).1
      (selectName ignored doc s name).2 := by
  unfold selectName
  split
  · exact accounts_take ignored ⟨rfl, rfl⟩ ⟨rfl, rfl⟩ s
  · exact .idle s rfl rfl

theorem accounts_selectMatches (doc : Document) (s : Selection) (p : Pattern) :
    Accounts s (selectMatches ignored doc s p).1
      (selectMatches ignored doc s p).2 := by
  unfold selectMatches
  dsimp only
  split
  · exact .idle s rfl rfl
  · exact accounts_visitAll
      (fun s d => accounts_take ignored ⟨rfl, rfl⟩ ⟨rfl, rfl⟩ s) s _

theorem accounts_selectForLines (p : Pattern) (s : Selection)
    (found : Definition × List String) :
    Accounts s (selectForLines ignored p s found).1
      (selectForLines ignored p s found).2 := by
  obtain ⟨d, lines⟩ := found
  refine Accounts.trans (.idle s ?_ ?_)
    (accounts_take ignored ⟨rfl, rfl⟩ ⟨rfl, rfl⟩ s)
  · simp [List.filterMap_map, Event.announced?, Function.comp_def]
  · simp [List.filterMap_map, Event.external?, Function.comp_def]

theorem accounts_selectLines (doc : Document) (s : Selection) (p : Pattern) :
    Accounts s (selectLines ignored doc s p).1
      (selectLines ignored doc s p).2 := by
  unfold selectLines
  dsimp only
  split
  · exact .idle s rfl rfl
  · exact accounts_visitAll (accounts_selectForLines ignored p) s _

/-- What is told about ignore patterns announces nothing. -/
theorem accounts_ignoreMatches (doc : Document) (limit : Nat)
    (ps : List Pattern) (s : Selection) :
    Accounts s s (visitAll (ignoreMatches doc limit) ignored ps).2 := by
  induction ps generalizing ignored with
  | nil => exact .idle s rfl rfl
  | cons p ps ih =>
      show Accounts s s ((ignoreMatches doc limit ignored p).2 ++ _)
      refine Accounts.trans ?_ (ih _)
      unfold ignoreMatches
      dsimp only
      split
      · exact .idle s rfl rfl
      · dsimp only
        split <;> exact .idle s rfl rfl

omit ignored in
theorem accounts_select (c : Criteria) (doc : Document) (limit : Nat) :
    Accounts Selection.empty (c.select doc limit).1 (c.select doc limit).2 :=
  (((accounts_ignoreMatches [] doc limit c.ignorePatterns.patterns _).trans
    (accounts_visitAll (accounts_selectName _ doc) _ c.names)).trans
    (accounts_visitAll (accounts_selectMatches _ doc) _
      c.namePatterns.patterns)).trans
    (accounts_visitAll (accounts_selectLines _ doc) _ c.linePatterns.patterns)

end Criteria

/-! ## The search -/

/-- The events account for a stretch of a search, and a search neither announces
functions as a criterion does nor reports what is missing. -/
structure Searches (s s' : Selection) (events : List Event) : Prop
    extends Accounts s s' events where
  follows : ∀ e ∈ events, e.foundDirectly? = none ∧ e.isMissing = false

namespace Searches

variable {c : Criteria} {s s' s'' : Selection} {events later : List Event}

theorem refl (s : Selection) : Searches s s [] :=
  ⟨.idle s rfl rfl, fun _ h => absurd h List.not_mem_nil⟩

theorem trans (h : Searches s s' events) (h' : Searches s' s'' later) :
    Searches s s'' (events ++ later) := by
  refine ⟨h.toAccounts.trans h'.toAccounts, fun e he => ?_⟩
  rcases List.mem_append.1 he with he | he
  · exact h.follows e he
  · exact h'.follows e he

theorem single {e : Event} (h : Accounts s s' [e])
    (hfollows : e.foundDirectly? = none ∧ e.isMissing = false) :
    Searches s s' [e] :=
  ⟨h, fun _ he => List.mem_singleton.1 he ▸ hfollows⟩

theorem meet (depth : Nat) (caller callee : String) (l : Layer) :
    ∃ events, (Layer.meet c depth caller l callee).events = l.events ++ events ∧
      Searches l.selection (Layer.meet c depth caller l callee).selection
        events := by
  unfold Layer.meet
  split
  · exact ⟨[], (List.append_nil _).symm, refl _⟩
  · next hsel =>
      split
      · exact ⟨_, rfl, single (.idle _ rfl rfl) ⟨rfl, rfl⟩⟩
      · split
        · exact ⟨_, rfl, single (.insert (by simpa using hsel) rfl rfl)
            ⟨rfl, rfl⟩⟩
        · split
          · exact ⟨[], (List.append_nil _).symm, refl _⟩
          · next hext => exact ⟨_, rfl,
              single (.markExternal (by simpa using hext)) ⟨rfl, rfl⟩⟩

theorem foldl {α : Type} {step : Layer → α → Layer}
    (hstep : ∀ l a, ∃ events, (step l a).events = l.events ++ events ∧
      Searches l.selection (step l a).selection events)
    (as : List α) (l : Layer) :
    ∃ events, (as.foldl step l).events = l.events ++ events ∧
      Searches l.selection (as.foldl step l).selection events := by
  induction as generalizing l with
  | nil => exact ⟨[], (List.append_nil _).symm, refl _⟩
  | cons a as ih =>
      obtain ⟨first, hfirst, hsearch⟩ := hstep l a
      obtain ⟨rest, hrest, hsearch'⟩ := ih (step l a)
      refine ⟨first ++ rest, ?_, hsearch.trans hsearch'⟩
      rw [List.foldl_cons, hrest, hfirst, List.append_assoc]

theorem follow (depth : Nat) (l : Layer) (caller : String) :
    ∃ events, (Layer.follow c depth l caller).events = l.events ++ events ∧
      Searches l.selection (Layer.follow c depth l caller).selection
        events := by
  unfold Layer.follow
  split
  · exact foldl (fun l callee => meet depth caller callee l) _
      { l with graph := (l.graph.callees caller).2 }
  · exact ⟨[], (List.append_nil _).symm, refl _⟩

theorem layer (depth : Nat) (graph : CallGraph) (s : Selection)
    (callers : List String) :
    Searches s (layer c depth graph s callers).selection
      (layer c depth graph s callers).events := by
  obtain ⟨events, hevents, hsearch⟩ := foldl (follow (c := c) depth) callers
    ⟨s, graph, 0, 0, []⟩
  rw [List.nil_append] at hevents
  rw [← hevents] at hsearch
  exact hsearch

theorem rounds (left depth : Nat) (graph : CallGraph) (s : Selection) :
    Searches s (rounds c left depth graph s).selection
      (rounds c left depth graph s).events := by
  induction left generalizing depth graph s with
  | zero =>
      unfold Expansion.rounds
      split
      · exact refl s
      · exact single (.idle s rfl rfl) ⟨rfl, rfl⟩
  | succ left ih =>
      unfold Expansion.rounds
      split
      · exact single (.idle s rfl rfl) ⟨rfl, rfl⟩
      · exact (layer (depth + 1) graph s _).trans (ih _ _ _)

end Searches

/-! ## The first criterion -/

namespace Criteria

/-- How a function is announced by the first criterion that asks for it: names
come before name patterns, and these before line patterns. -/
def firstCriterion? (c : Criteria) (doc : Document) (name : String) : Option Event :=
  if name ∈ c.names then some (.nameFound name)
  else
    match c.namePatterns.patterns.find? fun p => p.isMatch name with
    | some p => some (.matchFound p.source name)
    | none => do
      let d ← doc.find? name
      let p ← c.linePatterns.patterns.find? fun p => !(matchingLines doc p d).isEmpty
      return .lineMatchFound p.source name (matchingLines doc p d).length

variable {α : Type} {step : Selection → α → Selection × List Event}
  {s : Selection} {e : Event} {c : Criteria} {doc : Document} {limit : Nat}
  {ignored : NameSet} {name : String}

/-- An event is told at one of the visits, with what the visits before have
selected. -/
theorem exists_visit {as : List α} (h : e ∈ (visitAll step s as).2) :
    ∃ before a behind, as = before ++ a :: behind ∧
      e ∈ (step (visitAll step s before).1 a).2 := by
  induction as generalizing s with
  | nil => cases h
  | cons a as ih =>
      rcases List.mem_append.1 h with h | h
      · exact ⟨[], a, as, rfl, h⟩
      · obtain ⟨before, b, behind, rfl, hb⟩ := ih h
        exact ⟨a :: before, b, behind, rfl, hb⟩

theorem of_mem_take {leftOut found : Event} {f : String}
    (h : e ∈ (take ignored leftOut found s f).2)
    (he : e.foundDirectly? = some name)
    (hleft : leftOut.foundDirectly? = none) :
    e = found ∧ ignored.contains f = false ∧ s.contains f = false := by
  unfold take at h
  split at h
  · rw [List.mem_singleton.1 h, hleft] at he
    cases he
  · next hkept =>
      split at h
      · cases h
      · next hsel =>
          exact ⟨List.mem_singleton.1 h, Bool.not_eq_true _ ▸ hkept,
            by simpa using hsel⟩

/-- A defined function that is not ignored and not selected is asked for by
none of the criteria. -/
theorem not_asked_of_select (hdef : doc.contains name = true)
    (hkept : (c.findIgnored doc limit).1.contains name = false)
    (hnew : (c.select doc limit).1.contains name = false) :
    name ∉ c.names ∧
      (∀ p ∈ c.namePatterns.patterns, p.isMatch name = false) ∧
      ∀ p ∈ c.linePatterns.patterns, ∀ line, doc.ShowsLine name line →
        p.isMatch line = false := by
  rw [contains_findIgnored hdef] at hkept
  have hasked : ∀ h : (name ∈ c.names ∨
      (∃ p ∈ c.namePatterns.patterns, p.isMatch name = true) ∨
      ∃ line, doc.ShowsLine name line ∧
        ∃ p ∈ c.linePatterns.patterns, p.isMatch line = true), False := by
    intro h
    rw [contains_select_iff.2 ⟨hdef, hkept, h⟩] at hnew
    cases hnew
  refine ⟨fun h => hasked (.inl h), fun p hp => ?_, fun p hp line hline => ?_⟩
  · rw [← Bool.not_eq_true]
    exact fun h => hasked (.inr (.inl ⟨p, hp, h⟩))
  · rw [← Bool.not_eq_true]
    exact fun h => hasked (.inr (.inr ⟨line, hline, p, hp, h⟩))

theorem first_of_names
    (h : e ∈ (visitAll (selectName ignored doc) Selection.empty c.names).2)
    (he : e.foundDirectly? = some name) :
    c.firstCriterion? doc name = some e := by
  obtain ⟨before, f, behind, hnames, hf⟩ := exists_visit h
  unfold selectName at hf
  split at hf
  · obtain ⟨rfl, -, -⟩ := of_mem_take hf he rfl
    cases he
    rw [firstCriterion?, if_pos (by rw [hnames]; simp)]
  · rw [List.mem_singleton.1 hf] at he
    cases he

/-- What the visits start with is not selected, if it is not selected later. -/
theorem not_contains_of_visitAll
    (hstep : ∀ s a, Accounts s (step s a).1 (step s a).2) {as : List α}
    (hnew : (visitAll step s as).1.contains name = false) :
    s.contains name = false := by
  rw [← Bool.not_eq_true] at hnew ⊢
  exact fun hsel => hnew ((accounts_visitAll hstep s as).contains hsel)

/-- A name pattern announces what it matches, if nothing in front of it has asked
for it. -/
theorem first_of_namePatterns
    (h : e ∈ (visitAll (selectMatches (c.findIgnored doc limit).1 doc)
      (visitAll (selectName (c.findIgnored doc limit).1 doc) Selection.empty
        c.names).1
      c.namePatterns.patterns).2)
    (he : e.foundDirectly? = some name) :
    c.firstCriterion? doc name = some e := by
  obtain ⟨before, p, behind, hpatterns, hp⟩ := exists_visit h
  -- The criteria up to the pattern `p` have selected what is selected here.
  let front : Criteria := ⟨c.names, ⟨before⟩, .empty, c.ignorePatterns⟩
  change e ∈ (selectMatches (front.findIgnored doc limit).1 doc
    (front.select doc limit).1 p).2 at hp
  unfold selectMatches at hp
  dsimp only at hp
  split at hp
  · rw [List.mem_singleton.1 hp] at he
    cases he
  · obtain ⟨visited, d, later, hfound, hd⟩ := exists_visit hp
    obtain ⟨rfl, hkept, hnew⟩ := of_mem_take hd he rfl
    cases he
    have hmem : d ∈ doc.definitions.filter fun d => p.isMatch d.name := by
      rw [hfound]
      simp
    obtain ⟨hd, hmatch⟩ := List.mem_filter.1 hmem
    obtain ⟨hname, hbefore, -⟩ := not_asked_of_select (c := front)
      (Document.contains_iff.2 (doc.names_eq ▸ List.mem_map_of_mem hd)) hkept
      (not_contains_of_visitAll
        (fun s (d : Definition) => accounts_take _ ⟨rfl, rfl⟩ ⟨rfl, rfl⟩ s) hnew)
    have hfirst : (c.namePatterns.patterns.find? fun p => p.isMatch d.name) =
        some p := by
      refine List.find?_eq_some_iff_append.2 ⟨hmatch, before, behind, hpatterns, ?_⟩
      simpa using hbefore
    rw [firstCriterion?, if_neg hname, hfirst]

/-- A line pattern likewise, and it tells how many lines it matches. -/
theorem first_of_linePatterns (hnodup : doc.names.Nodup)
    (h : e ∈ (visitAll (selectLines (c.findIgnored doc limit).1 doc)
      (visitAll (selectMatches (c.findIgnored doc limit).1 doc)
        (visitAll (selectName (c.findIgnored doc limit).1 doc) Selection.empty
          c.names).1
        c.namePatterns.patterns).1
      c.linePatterns.patterns).2)
    (he : e.foundDirectly? = some name) :
    c.firstCriterion? doc name = some e := by
  obtain ⟨before, p, behind, hpatterns, hp⟩ := exists_visit h
  let front : Criteria := ⟨c.names, c.namePatterns, ⟨before⟩, c.ignorePatterns⟩
  change e ∈ (selectLines (front.findIgnored doc limit).1 doc
    (front.select doc limit).1 p).2 at hp
  unfold selectLines at hp
  dsimp only at hp
  split at hp
  · rw [List.mem_singleton.1 hp] at he
    cases he
  · obtain ⟨visited, ⟨d, lines⟩, later, hfound, hd⟩ := exists_visit hp
    have hmem : (d, lines) ∈ (doc.definitions.map fun d =>
        (d, matchingLines doc p d)).filter fun found => !found.2.isEmpty := by
      rw [hfound]
      simp
    obtain ⟨hmap, hlines⟩ := List.mem_filter.1 hmem
    obtain ⟨d, hdoc, hpair⟩ := List.mem_map.1 hmap
    cases hpair
    rcases List.mem_append.1 hd with hline | hd
    · obtain ⟨line, -, rfl⟩ := List.mem_map.1 hline
      cases he
    obtain ⟨rfl, hkept, hnew⟩ := of_mem_take hd he rfl
    cases he
    obtain ⟨hname, hpattern, hbefore⟩ := not_asked_of_select (c := front)
      (Document.contains_iff.2 (doc.names_eq ▸ List.mem_map_of_mem hdoc)) hkept
      (not_contains_of_visitAll (accounts_selectForLines _ p) hnew)
    have hnone : (c.namePatterns.patterns.find? fun p => p.isMatch d.name) =
        none := by
      simpa using hpattern
    have hfirst : (c.linePatterns.patterns.find? fun p =>
        !(matchingLines doc p d).isEmpty) = some p := by
      refine List.find?_eq_some_iff_append.2 ⟨hlines, before, behind, hpatterns, ?_⟩
      intro q hq
      rw [matchingLines_isEmpty, Bool.not_not, Bool.not_eq_true', ← Bool.not_eq_true]
      intro hmatch
      obtain ⟨line, hline, hq'⟩ := exists_matchesLine_iff.1
        ⟨doc.body d, List.mem_map_of_mem hdoc, hmatch⟩
      rw [hbefore q hq line hline] at hq'
      cases hq'
    rw [firstCriterion?, if_neg hname, hnone, Document.find?_of_mem hnodup hdoc]
    simp [hfirst]

theorem first_of_select (hnodup : doc.names.Nodup)
    (h : e ∈ (c.select doc limit).2) (he : e.foundDirectly? = some name) :
    c.firstCriterion? doc name = some e := by
  rcases List.mem_append.1 h with h | h
  · rcases List.mem_append.1 h with h | h
    · rcases List.mem_append.1 h with h | h
      · have hnone := (accounts_ignoreMatches [] doc limit
          c.ignorePatterns.patterns Selection.empty).depths
        have hmem := List.mem_filterMap.2
          ⟨e, h, Event.announced?_of_foundDirectly? he⟩
        rw [List.self_eq_append_left, List.reverse_eq_nil_iff] at hnone
        rw [hnone] at hmem
        cases hmem
      · exact first_of_names h he
    · exact first_of_namePatterns h he
  · exact first_of_linePatterns hnodup h he

end Criteria

/-! ## Warnings -/

theorem nodup_firstOccurrences (texts : List String) :
    (firstOccurrences texts).Nodup := by
  induction texts with
  | nil => exact List.nodup_nil
  | cons text texts ih =>
      refine List.nodup_cons.2 ⟨?_, ih.filter _⟩
      simp

theorem Pattern.source_of_compile? {source : String} {p : Pattern}
    (h : compile? source = some p) : p.source = source := by
  simp only [compile?, Option.bind_eq_bind, Option.bind_eq_some_iff] at h
  obtain ⟨ast, -, ⟨expr, flags⟩, -, h⟩ := h
  split at h
  · cases h
    rfl
  · cases h

namespace PatternSet

theorem map_source_of_map_compile? {texts : List String} {ps : List Pattern}
    (h : texts.map Pattern.compile? = ps.map some) :
    ps.map Pattern.source = texts := by
  induction ps generalizing texts with
  | nil => simpa using h.symm
  | cons p ps ih =>
      obtain ⟨text, texts, rfl, htext, hrest⟩ := List.map_eq_cons_iff.1 h
      rw [List.map_cons, ih hrest, Pattern.source_of_compile? htext]

variable {sources : List String} {set : PatternSet}

/-- No source is there twice. -/
theorem nodup_sources (h : compile sources = .ok set) :
    (set.patterns.map Pattern.source).Nodup := by
  rw [map_source_of_map_compile? (compile_eq_ok_iff.1 h)]
  exact nodup_firstOccurrences sources

/-- The compiled patterns that have some property, by their sources. -/
theorem exists_source_compile (h : compile sources = .ok set) {P : Pattern → Prop}
    {source : String} :
    (∃ p ∈ set.patterns, P p ∧ p.source = source) ↔
      source ∈ sources ∧ ∀ p, Pattern.compile? source = some p → P p := by
  simp only [mem_compile h]
  constructor
  · rintro ⟨p, ⟨text, htext, hp⟩, hprop, rfl⟩
    rw [Pattern.source_of_compile? hp]
    refine ⟨htext, fun q hq => ?_⟩
    rw [hp] at hq
    cases hq
    exact hprop
  · rintro ⟨hsource, hprop⟩
    obtain ⟨p, hp⟩ := exists_compile.1 ⟨set, h⟩ source hsource
    exact ⟨p, ⟨source, hsource, hp⟩, hprop p hp, Pattern.source_of_compile? hp⟩

end PatternSet

namespace Criteria

/-- Whether a pattern matches the name of a function of the document. -/
def findsName (doc : Document) (p : Pattern) : Bool :=
  doc.names.any p.isMatch

/-- Whether a pattern matches a line of a function of the document. -/
def findsLine (doc : Document) (p : Pattern) : Bool :=
  doc.functions.any fun f => matchesLine p f.2

/-- The names and patterns that find nothing, in the order in which they are
gone through. -/
def missing (c : Criteria) (doc : Document) : List Event :=
  (c.ignorePatterns.patterns.filter fun p => !findsName doc p).map
      (fun p => .ignoreUnused p.source) ++
    (c.names.filter fun name => !doc.contains name).map .nameMissing ++
    (c.namePatterns.patterns.filter fun p => !findsName doc p).map
      (fun p => .matchMissing p.source) ++
    (c.linePatterns.patterns.filter fun p => !findsLine doc p).map
      fun p => .lineMatchMissing p.source

variable {c : Criteria} {doc : Document} {ignored : NameSet}

/-- Visits that warn without looking at what has come of the ones before. -/
theorem missing_visitAll {σ α : Type} {step : σ → α → σ × List Event}
    {warnings : α → List Event}
    (hstep : ∀ s a, (step s a).2.filter Event.isMissing = warnings a) (s : σ)
    (as : List α) :
    (visitAll step s as).2.filter Event.isMissing = as.flatMap warnings := by
  induction as generalizing s with
  | nil => rfl
  | cons a as ih => rw [visitAll, List.filter_append, hstep, ih, List.flatMap_cons]

theorem flatMap_warning {α : Type} (fails : α → Bool) (warning : α → Event)
    (as : List α) :
    (as.flatMap fun a => if fails a then [warning a] else []) =
      (as.filter fails).map warning := by
  induction as with
  | nil => rfl
  | cons a as ih =>
      rw [List.flatMap_cons, ih, List.filter_cons]
      split <;> rfl

theorem missing_take {leftOut found : Event} (s : Selection) (name : String)
    (hleft : leftOut.isMissing = false) (hfound : found.isMissing = false) :
    (take ignored leftOut found s name).2.filter Event.isMissing = [] := by
  unfold take
  split
  · simp [hleft]
  · split
    · rfl
    · simp [hfound]

theorem missing_selectName (s : Selection) (name : String) :
    (selectName ignored doc s name).2.filter Event.isMissing =
      if !doc.contains name then [.nameMissing name] else [] := by
  unfold selectName
  cases doc.contains name
  · rfl
  · exact missing_take s name rfl rfl

theorem isEmpty_filter_definitions (p : Pattern) :
    (doc.definitions.filter fun d => p.isMatch d.name).isEmpty =
      !findsName doc p := by
  rw [findsName, Document.names_eq, Bool.eq_iff_iff]
  simp

theorem missing_selectMatches (s : Selection) (p : Pattern) :
    (selectMatches ignored doc s p).2.filter Event.isMissing =
      if !findsName doc p then [.matchMissing p.source] else [] := by
  unfold selectMatches
  dsimp only
  rw [isEmpty_filter_definitions]
  split
  · rfl
  · rw [missing_visitAll fun s (d : Definition) => missing_take s d.name rfl rfl]
    simp

theorem missing_selectForLines (p : Pattern) (s : Selection)
    (found : Definition × List String) :
    (selectForLines ignored p s found).2.filter Event.isMissing = [] := by
  obtain ⟨d, lines⟩ := found
  rw [selectForLines, List.filter_append, missing_take s d.name rfl rfl]
  simp [Event.isMissing]

theorem missing_selectLines (s : Selection) (p : Pattern) :
    (selectLines ignored doc s p).2.filter Event.isMissing =
      if !findsLine doc p then [.lineMatchMissing p.source] else [] := by
  have hnone : ((doc.definitions.map fun d => (d, matchingLines doc p d)).filter
      fun found => !found.2.isEmpty).isEmpty = !findsLine doc p := by
    rw [findsLine, Document.functions, List.any_map, List.filter_map,
      List.isEmpty_map, Bool.eq_iff_iff]
    simp only [Function.comp_def, matchingLines_isEmpty, Bool.not_not]
    simp
  unfold selectLines
  dsimp only
  rw [hnone]
  split
  · rfl
  · rw [missing_visitAll (missing_selectForLines p)]
    simp

theorem missing_ignoreMatches (limit : Nat) (ignored : NameSet) (p : Pattern) :
    (ignoreMatches doc limit ignored p).2.filter Event.isMissing =
      if !findsName doc p then [.ignoreUnused p.source] else [] := by
  have hnone : ((doc.definitions.map Definition.name).filter p.isMatch).isEmpty =
      !findsName doc p := by
    rw [List.filter_map, List.isEmpty_map]
    exact isEmpty_filter_definitions p
  unfold ignoreMatches
  dsimp only
  rw [hnone]
  split
  · rfl
  · dsimp only
    split <;> rfl

theorem missing_select (limit : Nat) :
    (c.select doc limit).2.filter Event.isMissing = c.missing doc := by
  show ((c.findIgnored doc limit).2 ++ _ ++ _ ++ _ : List Event).filter _ = _
  rw [List.filter_append, List.filter_append, List.filter_append, findIgnored,
    missing_visitAll (missing_ignoreMatches limit),
    missing_visitAll missing_selectName, missing_visitAll missing_selectMatches,
    missing_visitAll missing_selectLines]
  simp only [flatMap_warning]
  rfl

section Texts

variable {names namePatterns linePatterns ignorePatterns : List String}

theorem nodup_warnings {set : PatternSet} {sources : List String}
    (h : PatternSet.compile sources = .ok set) {fails : Pattern → Bool}
    {warning : String → Event} (hwarning : Function.Injective warning) :
    ((set.patterns.filter fails).map fun p => warning p.source).Nodup := by
  have hsub : ((set.patterns.filter fails).map Pattern.source).Sublist
      (set.patterns.map Pattern.source) := List.filter_sublist.map _
  have hmap := ((PatternSet.nodup_sources h).sublist hsub).map hwarning
  rwa [List.map_map] at hmap

/-- No name and no pattern is warned of twice. -/
theorem nodup_missing (hc : ofTexts names namePatterns linePatterns ignorePatterns =
    .ok c) : (c.missing doc).Nodup := by
  obtain ⟨-, hnames, hbyName, hbyLine, hignored⟩ := ofTexts_eq_ok_iff.1 hc
  have hundefined : ((c.names.filter fun name => !doc.contains name).map
      Event.nameMissing).Nodup := by
    rw [hnames]
    exact ((nodup_firstOccurrences names).filter _).map fun a b h => by cases h; rfl
  refine List.nodup_append.2 ⟨List.nodup_append.2 ⟨List.nodup_append.2
    ⟨nodup_warnings hignored fun a b h => by cases h; rfl, hundefined, ?_⟩,
    nodup_warnings hbyName fun a b h => by cases h; rfl, ?_⟩,
    nodup_warnings hbyLine fun a b h => by cases h; rfl, ?_⟩
  all_goals
    simp only [List.mem_append, List.mem_map]
    grind

/-- A pattern finds no function by name, said of its source. -/
theorem findsName_eq_false_iff {source : String} :
    (∀ p, Pattern.compile? source = some p → findsName doc p = false) ↔
      ∀ name, doc.contains name = true → Pattern.sourceMatches source name = false := by
  simp only [findsName, Pattern.sourceMatches, Document.contains_iff,
    List.any_eq_false, Option.any_eq_false, Bool.not_eq_true]
  constructor
  · intro h name hname p hp
    exact h p hp name hname
  · intro h p hp name hname
    exact h name hname p hp

/-- A pattern finds no function by a line, said of its source. -/
theorem findsLine_eq_false_iff {source : String} :
    (∀ p, Pattern.compile? source = some p → findsLine doc p = false) ↔
      ∀ name line, doc.ShowsLine name line →
        Pattern.sourceMatches source line = false := by
  have hlines : ∀ p, findsLine doc p = false ↔
      ∀ name line, doc.ShowsLine name line → p.isMatch line = false := by
    intro p
    rw [← Bool.not_eq_true, findsLine, List.any_eq_true]
    constructor
    · intro h name line hline
      rw [← Bool.not_eq_true]
      intro hmatch
      obtain ⟨body, hbody, hmatch⟩ := exists_matchesLine_iff.2 ⟨line, hline, hmatch⟩
      exact h ⟨_, hbody, hmatch⟩
    · rintro h ⟨⟨name, body⟩, hbody, hmatch⟩
      obtain ⟨line, hline, hmatch⟩ := exists_matchesLine_iff.1 ⟨body, hbody, hmatch⟩
      rw [h name line hline] at hmatch
      cases hmatch
  simp only [hlines, Pattern.sourceMatches, Option.any_eq_false]
  constructor
  · intro h name line hline p hp
    exact h p hp name line hline
  · intro h p hp name line hline
    exact h name line hline p hp

/-- What is warned of, said of the texts that the criteria were made from. -/
theorem mem_missing {doc : Document}
    (hc : ofTexts names namePatterns linePatterns ignorePatterns = .ok c) :
    (∀ name, .nameMissing name ∈ c.missing doc ↔
      name ∈ names ∧ doc.contains name = false) ∧
    (∀ source, .matchMissing source ∈ c.missing doc ↔
      source ∈ namePatterns ∧
        ∀ name, doc.contains name = true → Pattern.sourceMatches source name = false) ∧
    (∀ source, .lineMatchMissing source ∈ c.missing doc ↔
      source ∈ linePatterns ∧ ∀ name line, doc.ShowsLine name line →
        Pattern.sourceMatches source line = false) ∧
    ∀ source, .ignoreUnused source ∈ c.missing doc ↔
      source ∈ ignorePatterns ∧
        ∀ name, doc.contains name = true → Pattern.sourceMatches source name = false := by
  obtain ⟨-, hnames, hbyName, hbyLine, hignored⟩ := ofTexts_eq_ok_iff.1 hc
  refine ⟨fun name => ?_, fun source => ?_, fun source => ?_, fun source => ?_⟩
  · simp [missing, hnames, mem_firstOccurrences]
  · rw [← findsName_eq_false_iff, ← PatternSet.exists_source_compile hbyName]
    simp [missing, and_assoc]
  · rw [← findsLine_eq_false_iff, ← PatternSet.exists_source_compile hbyLine]
    simp [missing, and_assoc]
  · rw [← findsName_eq_false_iff, ← PatternSet.exists_source_compile hignored]
    simp [missing, and_assoc]

end Texts

end Criteria

/-- The events account for the selection. In what is told while criteria that
were made from texts select in a document and the selection grows along calls,
each selected name is announced once, with its depth, and one that a criterion
has found is at depth zero and announced by the first criterion that asks for
it; each external name is reported once; and each asked name without a definition,
as each pattern that matches in no definition, is warned of once. -/
theorem events_account {text : String} {doc : Document}
    (hparse : Document.parse text = .ok doc)
    {names namePatterns linePatterns ignorePatterns : List String} {c : Criteria}
    (hc : Criteria.ofTexts names namePatterns linePatterns ignorePatterns = .ok c)
    (limit : Nat) (asked : List String) (depth : Nat) :
    let direct := c.select doc limit
    let grown := c.expand (CallGraph.afterAsking doc asked) direct.1 depth
    let final := grown.selection
    let events := direct.2 ++ grown.events
    let announced := events.filterMap Event.announced?
    let external := events.filterMap Event.external?
    ((announced.map Prod.fst).Nodup ∧
      ∀ name n, (name, n) ∈ announced ↔ final.depth? name = some n) ∧
    (∀ e ∈ events, ∀ name, e.foundDirectly? = some name →
      final.depth? name = some 0 ∧ c.firstCriterion? doc name = some e) ∧
    (external.Nodup ∧ ∀ name, name ∈ external ↔ name ∈ final.external) ∧
    (events.filter Event.isMissing).Nodup ∧
    (∀ name, .nameMissing name ∈ events ↔
      name ∈ names ∧ doc.contains name = false) ∧
    (∀ source, .matchMissing source ∈ events ↔
      source ∈ namePatterns ∧
        ∀ name, doc.contains name = true → Pattern.sourceMatches source name = false) ∧
    (∀ source, .lineMatchMissing source ∈ events ↔
      source ∈ linePatterns ∧ ∀ name line, doc.ShowsLine name line →
        Pattern.sourceMatches source line = false) ∧
    (∀ source, .ignoreUnused source ∈ events ↔
      source ∈ ignorePatterns ∧
        ∀ name, doc.contains name = true → Pattern.sourceMatches source name = false) ∧
    ∀ e ∈ events,
      (e.announced?.isSome → e.level = .info) ∧
      (e.external?.isSome → e.level = .debug) ∧ (e.isMissing → e.level = .warn) := by
  intro direct grown final events announced external
  have hgrown : Searches direct.1 final grown.events := Searches.rounds depth 0 _ _
  have hall : Accounts Selection.empty final events :=
    (c.accounts_select doc limit).trans hgrown.toAccounts
  have hdepths : final.depths = announced.reverse := by
    rw [hall.depths]
    exact List.append_nil _
  have hexternal : final.external.Perm external := by
    simpa [Selection.empty] using hall.external
  have hannounced : ∀ name n, (name, n) ∈ announced ↔ final.depth? name = some n := by
    intro name n
    rw [← Selection.mem_depths, hdepths, List.mem_reverse]
  have hmissing : events.filter Event.isMissing = c.missing doc := by
    have hnone : grown.events.filter Event.isMissing = [] := by
      simpa using fun e he => (hgrown.follows e he).2
    rw [List.filter_append, hnone, List.append_nil]
    exact Criteria.missing_select limit
  have hmem : ∀ e : Event, e.isMissing = true → (e ∈ events ↔ e ∈ c.missing doc) := by
    intro e he
    rw [← hmissing, List.mem_filter, and_iff_left he]
  obtain ⟨hnames, hbyName, hbyLine, hignored⟩ := Criteria.mem_missing hc
  refine ⟨⟨?_, hannounced⟩, ?_, ⟨?_, ?_⟩, ?_, ?_, ?_, ?_, ?_, ?_⟩
  · have hdistinct := final.distinct
    rwa [hdepths, List.map_reverse, List.nodup_reverse] at hdistinct
  · intro e he name hname
    refine ⟨(hannounced name 0).1 (List.mem_filterMap.2
      ⟨e, he, Event.announced?_of_foundDirectly? hname⟩), ?_⟩
    rcases List.mem_append.1 he with he | he
    · exact Criteria.first_of_select (Document.names_nodup hparse) he hname
    · rw [(hgrown.follows e he).1] at hname
      cases hname
  · exact hexternal.nodup_iff.1 (final.ordered.imp fun h => String.ne_of_lt h)
  · exact fun name => hexternal.mem_iff.symm
  · rw [hmissing]
    exact Criteria.nodup_missing hc
  · exact fun name => (hmem _ rfl).trans (hnames name)
  · exact fun source => (hmem _ rfl).trans (hbyName source)
  · exact fun source => (hmem _ rfl).trans (hbyLine source)
  · exact fun source => (hmem _ rfl).trans (hignored source)
  · exact fun e _ => e.levels

theorem events_account_sample :
    Document.parse Document.sampleText = .ok Document.sample ∧
    ∃ c, Criteria.ofTexts ["a", "x", "a"] ["^a$", "^z"] [] ["^q"] = .ok c ∧
      let direct := c.select Document.sample 10
      let grown := c.expand (CallGraph.afterAsking Document.sample []) direct.1 2
      let events := direct.2 ++ grown.events
      ((events.filterMap Event.announced?).map Prod.fst).Nodup ∧
      (events.filter Event.isMissing).Nodup ∧ .nameMissing "x" ∈ events ∧
      .matchMissing "^z" ∈ events ∧ .ignoreUnused "^q" ∈ events := by
  obtain ⟨c, hc⟩ : ∃ c,
      Criteria.ofTexts ["a", "x", "a"] ["^a$", "^z"] [] ["^q"] = .ok c := by
    simp only [Criteria.exists_ofTexts, ← Option.isSome_iff_exists]
    decide +kernel
  obtain ⟨⟨honce, -⟩, -, -, hwarned, hnames, hbyName, -, hignored, -⟩ :=
    events_account Document.parse_sampleText hc 10 [] 2
  refine ⟨Document.parse_sampleText, c, hc, honce, hwarned, (hnames "x").2 ?_,
    (hbyName "^z").2 ⟨by decide, ?_⟩, (hignored "^q").2 ⟨by decide, ?_⟩⟩
  · decide +kernel
  · simp only [Document.contains_iff]
    decide +kernel
  · simp only [Document.contains_iff]
    decide +kernel

end IrExcerpt
