import IrExcerpt.Proofs.LineEnds
import IrExcerpt.Proofs.Reextraction

/-!
# A larger depth only adds

Two runs with the same criteria on the same document differ in how many rounds
they are given. The shorter one sees the same distances as the longer one, up to
its own limit; so its selection is the other one cut off at that depth, and its
rounds are the first rounds of the other.

For the text this is not the end of it, because the empty line in front of a
definition depends on what stands before it, and a larger depth puts definitions
in between. It comes out right since a definition never ends in an empty line:
its last line closes a brace. So every definition but the first is set off,
whatever stands before it, and the first one is set off or not by the preamble,
which is the same in both runs (`foldl_append_sublist`).
-/

namespace IrExcerpt

/-! ## Depths and figures -/

/-- The selected functions of a document in its order, each with its depth. -/
def Selection.ranked (s : Selection) (doc : Document) : List (String × Nat) :=
  (s.inDocumentOrder doc).filterMap fun name => (s.depth? name).map (name, ·)

theorem Selection.ranked_eq {doc : Document} (hnodup : doc.names.Nodup)
    (s : Selection) :
    s.ranked doc =
      doc.names.filterMap fun name => (s.depth? name).map (name, ·) := by
  rw [ranked, Document.inDocumentOrder_eq hnodup, List.filterMap_filter]
  refine List.filterMap_congr fun name _ => ?_
  cases hdepth : s.depth? name with
  | none => simp
  | some d => simp [contains, hdepth]

variable {c : Criteria} {doc : Document} {start : String → Prop}

namespace Layered

variable {k k' : Nat} {s s' : Selection}

/-- What is right up to one distance is what is right up to a larger one, cut
off. -/
theorem depth?_iff_of_le (h : Layered c doc start k s)
    (h' : Layered c doc start k' s') (hle : k ≤ k') (g : String) (n : Nat) :
    s.depth? g = some n ↔ s'.depth? g = some n ∧ n ≤ k := by
  rw [h.depths, h'.depths]
  exact ⟨fun ⟨hn, hdist⟩ => ⟨⟨by omega, hdist⟩, hn⟩,
    fun ⟨⟨_, hdist⟩, hn⟩ => ⟨hn, hdist⟩⟩

theorem ranked_of_le (hnodup : doc.names.Nodup) (h : Layered c doc start k s)
    (h' : Layered c doc start k' s') (hle : k ≤ k') :
    s.ranked doc = (s'.ranked doc).filter fun entry => entry.2 ≤ k := by
  rw [Selection.ranked_eq hnodup, Selection.ranked_eq hnodup,
    List.filter_filterMap]
  refine List.filterMap_congr fun name _ => ?_
  refine Option.ext fun entry => ?_
  have hiff := h.depth?_iff_of_le h' hle name
  simp only [Option.map_eq_some_iff, Option.filter_eq_some_iff,
    decide_eq_true_eq]
  constructor
  · rintro ⟨n, hn, rfl⟩
    obtain ⟨hn', hle'⟩ := (hiff n).1 hn
    exact ⟨⟨n, hn', rfl⟩, hle'⟩
  · rintro ⟨⟨n, hn', rfl⟩, hle'⟩
    exact ⟨n, (hiff n).2 ⟨hn', hle'⟩, rfl⟩

theorem contains_of_le (h : Layered c doc start k s)
    (h' : Layered c doc start k' s') (hle : k ≤ k') {g : String}
    (hg : s.contains g = true) : s'.contains g = true := by
  obtain ⟨n, hn⟩ := Selection.contains_iff_depth?.1 hg
  exact Selection.contains_iff_depth?.2
    ⟨n, ((h.depth?_iff_of_le h' hle g n).1 hn).1⟩

theorem external_of_le (h : Layered c doc start k s)
    (h' : Layered c doc start k' s') (hle : k ≤ k') :
    s.external ⊆ s'.external := by
  intro g hg
  obtain ⟨hundef, hkept, f, n, hf, hn, hcall⟩ := (h.external g).1 hg
  exact (h'.external g).2 ⟨hundef, hkept, f, n,
    ((h.depth?_iff_of_le h' hle f n).1 hf).1, by omega, hcall⟩

end Layered

/-- The rounds of a search are the first rounds of a longer one. -/
theorem addedPerDepth_prefix (c : Criteria) (left more k : Nat)
    (graph : CallGraph) (s : Selection) :
    (Expansion.rounds c left k graph s).stats.addedPerDepth <+:
      (Expansion.rounds c (left + more) k graph s).stats.addedPerDepth := by
  induction left generalizing k graph s with
  | zero => exact List.nil_prefix
  | succ left ih =>
      rw [show left + 1 + more = left + more + 1 by omega]
      unfold Expansion.rounds
      split
      · exact List.prefix_refl _
      · exact List.cons_prefix_cons.2 ⟨rfl, ih ..⟩

/-! ## Separating lines -/

/-- There is a last line, and it is not empty. -/
def EndsFull (body : List String) : Prop :=
  ∃ line, body.getLast? = some line ∧ line ≠ ""

theorem EndsFull.setOff {out : List String} (h : EndsFull out) :
    Excerpt.setOff out = false := by
  obtain ⟨line, hlast, hfull⟩ := h
  have hsome : out ≠ [] := by
    intro hnil
    rw [hnil] at hlast
    cases hlast
  simp [Excerpt.setOff, hlast, hfull, hsome]

theorem EndsFull.append {body : List String} (h : EndsFull body)
    (out : List String) : EndsFull (out ++ body) := by
  obtain ⟨line, hlast, hfull⟩ := h
  exact ⟨line, by rw [List.getLast?_append, hlast]; rfl, hfull⟩

theorem EndsFull.excerpt_append {body : List String} (h : EndsFull body)
    (out : List String) : EndsFull (Excerpt.append out body) := by
  unfold Excerpt.append
  split
  · exact h.append out
  · rw [List.append_cons]
    exact h.append (out ++ [""])

theorem append_of_not_setOff {out : List String}
    (h : Excerpt.setOff out = false) (body : List String) :
    Excerpt.append out body = out ++ "" :: body := by
  rw [Excerpt.append, h]
  rfl

/-- Behind a body that ends in a full line, every body is set off. -/
theorem foldl_append_full {bodies : List (List String)}
    (hfull : ∀ body ∈ bodies, EndsFull body) {out : List String}
    (hout : EndsFull out) :
    bodies.foldl Excerpt.append out =
      out ++ bodies.flatMap fun body => "" :: body := by
  induction bodies generalizing out with
  | nil => simp
  | cons body bodies ih =>
      have hbody := hfull body List.mem_cons_self
      rw [List.foldl_cons, append_of_not_setOff hout.setOff, List.append_cons,
        ih (fun b hb => hfull b (List.mem_cons_of_mem _ hb)) (hbody.append _)]
      simp

theorem sublist_append (out body : List String) :
    out.Sublist (Excerpt.append out body) := by
  unfold Excerpt.append
  split <;> exact List.sublist_append_left _ _

/-- A body put in between is all that is added: what follows it stays. -/
theorem foldl_append_insert {body : List String} (hbody : EndsFull body)
    {bodies : List (List String)} (hfull : ∀ b ∈ bodies, EndsFull b)
    (out : List String) :
    (bodies.foldl Excerpt.append out).Sublist
      (bodies.foldl Excerpt.append (Excerpt.append out body)) := by
  cases bodies with
  | nil => exact sublist_append out body
  | cons first bodies =>
      have hfirst := hfull first List.mem_cons_self
      have hrest := fun b hb => hfull b (List.mem_cons_of_mem _ hb)
      rw [List.foldl_cons, List.foldl_cons,
        foldl_append_full hrest (hfirst.excerpt_append _),
        foldl_append_full hrest (hfirst.excerpt_append _)]
      refine List.Sublist.append ?_ (List.Sublist.refl _)
      -- The second run sets `first` off in any case.
      rw [append_of_not_setOff (hbody.excerpt_append out).setOff,
        Excerpt.append.eq_def out first]
      split
      · exact (sublist_append out body).append (List.sublist_cons_self _ _)
      · exact (sublist_append out body).append (List.Sublist.refl _)

/-- Fewer bodies make a subsequence of the lines. -/
theorem foldl_append_sublist {few many : List (List String)}
    (h : few.Sublist many) (hfull : ∀ b ∈ many, EndsFull b)
    (out : List String) :
    (few.foldl Excerpt.append out).Sublist
      (many.foldl Excerpt.append out) := by
  induction h generalizing out with
  | slnil => exact List.Sublist.refl _
  | cons body hsub ih =>
      have hrest := fun b hb => hfull b (List.mem_cons_of_mem _ hb)
      exact (ih hrest out).trans
        (foldl_append_insert (hfull body List.mem_cons_self) hrest out)
  | cons_cons body hsub ih =>
      exact ih (fun b hb => hfull b (List.mem_cons_of_mem _ hb)) _

/-! ## A definition ends in a full line -/

namespace Document

theorem feed_empty (s : BodyScan) : s.feed "".toList = s := rfl

/-- The line that closes a definition is not empty, for an empty line does not
change the verdict. -/
theorem BodyScan.ClosesAfter.last_ne_empty {s : BodyScan} {line : String}
    {rest : List String} (h : s.ClosesAfter rest)
    (hlast : rest.getLast? = some line) : line ≠ "" := by
  induction rest generalizing s with
  | nil => cases hlast
  | cons first rest ih =>
      obtain ⟨hopen, hrest⟩ := h
      cases rest with
      | nil =>
          cases hlast
          rintro rfl
          have hclosed : (s.feed "".toList).verdict = .closed := hrest
          rw [feed_empty, hopen] at hclosed
          cases hclosed
      | cons second rest => exact ih hrest hlast

theorem endsFull_of_valid {name : String} {body : List String}
    (h : (Block.definition name body).Valid) : EndsFull body := by
  obtain ⟨header, rest, symbol, params, rfl, hkind, -, -, hclose⟩ := h
  cases hlast : rest.getLast? with
  | none =>
      rw [List.getLast?_eq_none_iff.1 hlast]
      refine ⟨header, rfl, ?_⟩
      rintro rfl
      cases hkind
  | some line =>
      refine ⟨line, ?_, hclose.last_ne_empty hlast⟩
      rw [List.getLast?_cons, hlast]
      rfl

theorem valid_of_mem_functions {text : String} {doc : Document}
    (h : parse text = .ok doc) {f : String × List String}
    (hf : f ∈ doc.functions) : (Block.definition f.1 f.2).Valid := by
  obtain ⟨bs, hvalid, -, -, rfl⟩ := blocks_of_parse h
  rw [functions_ofBlocks] at hf
  exact hvalid _ (mem_functions_flatMap hf)

/-- The excerpt of a smaller selection is a subsequence of the lines. -/
theorem excerpt_sublist {text : String} {doc : Document}
    (h : parse text = .ok doc) {s s' : Selection}
    (hsub : ∀ name, s.contains name = true → s'.contains name = true) :
    (Excerpt.lines doc s).Sublist (Excerpt.lines doc s') := by
  have hnodup := names_nodup h
  rw [lines_excerpt hnodup, lines_excerpt hnodup]
  refine foldl_append_sublist ?_ ?_ _
  · refine List.Sublist.map _ ?_
    exact List.monotone_filter_right doc.functions fun f hf => hsub f.1 hf
  · intro body hbody
    obtain ⟨f, hf, rfl⟩ := List.mem_map.1 hbody
    exact endsFull_of_valid (valid_of_mem_functions h (List.mem_filter.1 hf).1)

end Document

/-- A smaller depth gives the result of a larger one, cut off at that depth: the
selected functions are those with no larger depth, in the same order and at the
same depths; the external names are among those of the larger depth; the counts
per depth are the first of its counts; and the lines of the text are some of its
lines, in the same order. -/
theorem grow_of_le {text : String} {doc : Document}
    (h : Document.parse text = .ok doc) (c : Criteria) (limit : Nat)
    {k k' : Nat} (hle : k ≤ k') :
    let near := c.grow doc limit k
    let far := c.grow doc limit k'
    near.selection.ranked doc =
        (far.selection.ranked doc).filter (fun entry => entry.2 ≤ k) ∧
      near.selection.external ⊆ far.selection.external ∧
      near.stats.addedPerDepth <+: far.stats.addedPerDepth ∧
      (Text.lines (Excerpt.render doc near.selection)).Sublist
        (Text.lines (Excerpt.render doc far.selection)) := by
  intro near far
  have hnodup := Document.names_nodup h
  have hnear := layered_grow hnodup c limit k
  have hfar := layered_grow hnodup c limit k'
  refine ⟨hnear.ranked_of_le hnodup hfar hle, hnear.external_of_le hfar hle,
    ?_, ?_⟩
  · obtain ⟨more, rfl⟩ := Nat.exists_eq_add_of_le hle
    exact addedPerDepth_prefix c k more 0 _ _
  · rw [Document.lines_render_eq_map h, Document.lines_render_eq_map h]
    exact (Document.excerpt_sublist h fun _ hname =>
      hnear.contains_of_le hfar hle hname).map _

theorem grow_of_le_sample :
    let c : Criteria := ⟨["b"], .empty, .empty, .empty⟩
    let near := c.grow Document.sample 10 0
    let far := c.grow Document.sample 10 1
    Document.parse Document.sampleText = .ok Document.sample ∧ 0 ≤ 1 ∧
      near.selection.ranked Document.sample = [("b", 0)] ∧
      far.selection.ranked Document.sample = [("a", 1), ("b", 0)] ∧
      (Text.lines (Excerpt.render Document.sample near.selection)).Sublist
        (Text.lines (Excerpt.render Document.sample far.selection)) := by
  intro c near far
  have hnodup := Document.names_nodup Document.parse_sampleText
  refine ⟨Document.parse_sampleText, Nat.zero_le 1, ?_, ?_, ?_⟩
  · rw [Selection.ranked_eq hnodup]
    decide +kernel
  · rw [Selection.ranked_eq hnodup]
    decide +kernel
  · exact (grow_of_le Document.parse_sampleText c 10 (Nat.zero_le 1)).2.2.2

end IrExcerpt
