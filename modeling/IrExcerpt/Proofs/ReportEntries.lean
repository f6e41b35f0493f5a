import IrExcerpt.Proofs.ReadBack
import IrExcerpt.Proofs.CallDistance
import IrExcerpt.Extraction.Request
import IrExcerpt.Report

/-!
# Counting what is selected

A selection is counted in three ways. Its size is the number of names in it, an
excerpt holds the selected names that are defined, and a report lists them by
place with their depths and lines. The three agree because a name comes into a
selection once, and only if it is defined; and the names at depth zero are those
that were asked for, because calls are followed behind them only.

What a report says of a function it says of the text that the excerpt was taken
from. So the lines it points to are looked up there, by their numbers.
-/

namespace IrExcerpt

/-- The lines of a text in a range. -/
def Text.between (text : String) (r : LineRange) : List String :=
  ((Text.lines text).drop (r.first - 1)).take (r.last + 1 - r.first)

/-- The range holds a line, and `count` lines hold the range. -/
def LineRange.Within (r : LineRange) (count : Nat) : Prop :=
  1 ≤ r.first ∧ r.first ≤ r.last ∧ r.last ≤ count

instance (r : LineRange) (count : Nat) : Decidable (r.Within count) :=
  inferInstanceAs (Decidable (_ ∧ _ ∧ _))

namespace Document

theorem linesIn_of_parse {text : String} {doc : Document}
    (h : parse text = .ok doc) (r : LineRange) :
    doc.linesIn r = Text.between text r := by
  rw [linesIn, lines_of_parse h]
  rfl

theorem find?_of_mem {doc : Document} (hnodup : doc.names.Nodup)
    {d : Definition} (hd : d ∈ doc.definitions) :
    doc.find? d.name = some d := by
  rw [names_eq, definitions] at hnodup
  rw [definitions] at hd
  rw [find?]
  generalize doc.entities = es at hnodup hd
  induction es with
  | nil => cases hd
  | cons e es ih =>
      cases e with
      | declaration name line => exact ih hnodup hd
      | other range => exact ih hnodup hd
      | definition d' =>
          obtain ⟨hnew, hnodup⟩ := List.nodup_cons.1 hnodup
          rcases List.mem_cons.1 hd with rfl | hd
          · simp [Entity.defines, Entity.definition?]
          · have hne : d'.name ≠ d.name := by
              intro heq
              exact hnew (heq ▸ List.mem_map_of_mem hd)
            have hdef : Entity.defines d.name (.definition d') = false := by
              simpa [Entity.defines] using hne
            rw [List.find?_cons, hdef]
            exact ih hnodup hd

/-- The name that an entity defines outside of `count` lines. -/
def misplaced (count : Nat) : Entity → List String
  | .definition d => if d.range.Within count then [] else [d.name]
  | _ => []

/-- The name that a block defines without a line. -/
def Block.bare : Block → List String
  | .definition name [] => [name]
  | _ => []

theorem Block.bare_of_valid {b : Block} (h : b.Valid) : b.bare = [] := by
  unfold bare
  split
  · obtain ⟨header, rest, symbol, params, hbody, -⟩ := h
    cases hbody
  · rfl

theorem misplaced_ofBlocks (bs : List Block) :
    (ofBlocks bs).entities.flatMap
        (misplaced (bs.flatMap Block.lines).length) =
      bs.flatMap Block.bare := by
  refine flatMap_ofBlocks bs (fun _ _ _ _ => rfl) fun before b behind h => ?_
  cases b with
  | declaration name line => rfl
  | other line => rfl
  | definition name body =>
      have hcount := congrArg List.length h
      simp only [Block.lines, List.length_append] at hcount
      cases body with
      | nil => simp [misplaced, Block.entityAt, Block.bare, LineRange.Within]
      | cons line body =>
          have hlast : before.length + (line :: body).length ≤
              (bs.flatMap Block.lines).length := by omega
          simp only [misplaced, Block.entityAt, Block.bare]
          rw [if_pos ⟨by simp, by simp, hlast⟩]

theorem within_of_mem_definitions {text : String} {doc : Document}
    (h : parse text = .ok doc) {d : Definition} (hd : d ∈ doc.definitions) :
    d.range.Within (Text.lines text).length := by
  obtain ⟨bs, hvalid, -, hlines, rfl⟩ := blocks_of_parse h
  have hnone : (ofBlocks bs).entities.flatMap
      (misplaced (Text.lines text).length) = [] := by
    rw [← hlines, misplaced_ofBlocks]
    exact List.flatMap_eq_nil_iff.2 fun b hb => Block.bare_of_valid (hvalid b hb)
  obtain ⟨e, he, hdef⟩ := List.mem_filterMap.1 hd
  cases e with
  | declaration name line => cases hdef
  | other range => cases hdef
  | definition d' =>
      cases hdef
      have hplaced := List.flatMap_eq_nil_iff.1 hnone _ he
      rw [misplaced] at hplaced
      by_contra hout
      rw [if_neg hout] at hplaced
      cases hplaced

theorem functionCount_eq (doc : Document) :
    doc.functionCount = doc.names.length := by
  rw [functionCount, names_eq, List.length_map]

end Document

/-! ## Sizes -/

namespace Layered

variable {c : Criteria} {doc : Document} {start : String → Prop} {k : Nat}
  {direct s : Selection}

theorem contains_doc (h : Layered c doc start k s) {name : String}
    (hname : s.contains name = true) : doc.contains name = true := by
  obtain ⟨n, hn⟩ := Selection.contains_iff_depth?.1 hname
  exact ((h.depths name n).1 hn).2.admits.1

/-- As many functions are selected as the document has that are selected. -/
theorem length_filter (h : Layered c doc start k s)
    (hnodup : doc.names.Nodup) :
    (doc.names.filter s.contains).length = s.size := by
  have hperm : (doc.names.filter s.contains).Perm (s.depths.map Prod.fst) := by
    refine (List.perm_ext_iff_of_nodup (hnodup.filter _) s.distinct).2 ?_
    intro name
    rw [List.mem_filter, ← Selection.contains_iff_mem]
    exact ⟨And.right, fun hname =>
      ⟨Document.contains_iff.1 (h.contains_doc hname), hname⟩⟩
  rw [hperm.length_eq, List.length_map, Selection.size]

/-- So many functions an excerpt holds. -/
theorem functionCount_of_readBack (h : Layered c doc start k s)
    (hnodup : doc.names.Nodup) {excerpt : Document}
    (hback : Document.ReadBack doc s excerpt) :
    excerpt.functionCount = s.size := by
  rw [Document.functionCount_eq, Document.names, hback.functions,
    ← h.length_filter hnodup, Document.names, Document.selected,
    List.filter_map, List.length_map, List.length_map]
  rfl

theorem size_le_functionCount (h : Layered c doc start k s)
    (hnodup : doc.names.Nodup) : s.size ≤ doc.functionCount := by
  rw [← h.length_filter hnodup, Document.functionCount_eq]
  exact List.length_filter_le _ _

/-- What is at depth zero was there before calls were followed. -/
theorem depth?_eq_zero_iff (h : Layered c doc start k s)
    (hdirect : Layered c doc start 0 direct) {name : String} :
    s.depth? name = some 0 ↔ direct.contains name = true := by
  have hzero : s.depth? name = some 0 ↔ direct.depth? name = some 0 := by
    rw [h.depths, hdirect.depths]
    simp
  rw [hzero, Selection.contains_iff_depth?]
  constructor
  · exact fun hname => ⟨0, hname⟩
  · rintro ⟨n, hn⟩
    obtain rfl : n = 0 := by
      have hle := ((hdirect.depths name n).1 hn).1
      omega
    exact hn

theorem size_le (h : Layered c doc start k s)
    (hdirect : Layered c doc start 0 direct) (hnodup : doc.names.Nodup) :
    direct.size ≤ s.size := by
  rw [← h.length_filter hnodup, ← hdirect.length_filter hnodup]
  refine (List.monotone_filter_right _ fun name hname => ?_).length_le
  exact Selection.contains_iff_depth?.2
    ⟨0, (h.depth?_eq_zero_iff hdirect).2 hname⟩

end Layered

/-! ## Reports -/

namespace Report

variable {c : Criteria} {doc : Document} {start : String → Prop} {k : Nat}
  {direct s : Selection}

/-- A report lists the selected definitions one by one. -/
theorem entries_eq (hnodup : doc.names.Nodup) (s : Selection) :
    entries doc s = (doc.definitions.filter fun d => s.contains d.name).map
      fun d => ⟨d.name, (s.depth? d.name).getD 0, d.range⟩ := by
  rw [entries, Document.inDocumentOrder_eq hnodup, Document.names_eq,
    List.filter_map, List.filterMap_map, ← List.filterMap_eq_map]
  refine List.filterMap_congr fun d hd => ?_
  obtain ⟨hd, hname⟩ := List.mem_filter.1 hd
  obtain ⟨n, hn⟩ := Selection.contains_iff_depth?.1 hname
  simp only [Function.comp_apply, Document.find?_of_mem hnodup hd, hn]
  rfl

theorem map_entries (hnodup : doc.names.Nodup) (s : Selection) :
    (entries doc s).map (fun e => (e.name, doc.linesIn e.range)) =
      doc.selected s := by
  rw [entries_eq hnodup, Document.selected, Document.functions,
    List.filter_map, List.map_map]
  rfl

theorem mem_entries (hnodup : doc.names.Nodup) {e : Entry}
    (he : e ∈ entries doc s) :
    ∃ d ∈ doc.definitions, e.range = d.range ∧
      s.depth? d.name = some e.depth := by
  rw [entries_eq hnodup] at he
  obtain ⟨d, hd, rfl⟩ := List.mem_map.1 he
  obtain ⟨hd, hname⟩ := List.mem_filter.1 hd
  obtain ⟨n, hn⟩ := Selection.contains_iff_depth?.1 hname
  exact ⟨d, hd, rfl, by simp only [hn, Option.getD_some]⟩

/-- As many functions are listed at depth zero as were selected directly. -/
theorem length_entries_zero (hnodup : doc.names.Nodup)
    (h : Layered c doc start k s) (hdirect : Layered c doc start 0 direct) :
    ((entries doc s).filter fun e => e.depth == 0).length = direct.size := by
  rw [← hdirect.length_filter hnodup, Document.names_eq, List.filter_map,
    List.length_map, entries_eq hnodup, List.filter_map, List.length_map,
    List.filter_filter]
  refine congrArg List.length (List.filter_congr fun d _ => ?_)
  have hzero : s.depth? d.name = some 0 ↔ direct.contains d.name = true :=
    h.depth?_eq_zero_iff hdirect
  simp only [Function.comp_apply, Selection.contains] at hzero ⊢
  rw [Bool.eq_iff_iff, ← hzero]
  cases s.depth? d.name with
  | none => simp
  | some n => simp

/-- What a report says about an excerpt of `text`, made with the criteria `c` up
to depth `depth`. -/
structure Describes (report : Report) (text : String) (c : Criteria)
    (depth : Nat) (input excerpt : Document) (figures : Figures) : Prop where
  /-- The functions of the excerpt, with the lines that they have there. -/
  functions : report.functions.map
    (fun e => (e.name, Text.between text e.range)) = excerpt.functions
  within : ∀ e ∈ report.functions,
    e.range.Within (Text.lines text).length
  depths : ∀ e ∈ report.functions, e.depth ≤ depth
  direct : (report.functions.filter fun e => e.depth == 0).length =
    figures.selected
  ordered : report.externalCallees.Pairwise (· < ·)
  external : report.externalCallees.length = figures.external
  undefined : ∀ name ∈ report.externalCallees, input.contains name = false
  kept : ∀ name ∈ report.externalCallees, c.ignores name = false

theorem describes_ofSelection {text : String} {excerpt : Document}
    {figures : Figures} (hparse : Document.parse text = .ok doc)
    (h : Layered c doc start k s) (hdirect : Layered c doc start 0 direct)
    (hback : Document.ReadBack doc s excerpt)
    (hselected : figures.selected = direct.size)
    (hexternal : figures.external = s.external.length)
    (input output : Path) (digest time : String) :
    (ofSelection input output digest time k doc s).Describes text c k doc
      excerpt figures where
  functions := by
    rw [hback.functions, ← map_entries (Document.names_nodup hparse)]
    simp only [Document.linesIn_of_parse hparse]
    rfl
  within e he := by
    obtain ⟨d, hd, hrange, -⟩ :=
      mem_entries (Document.names_nodup hparse) he
    rw [hrange]
    exact Document.within_of_mem_definitions hparse hd
  depths e he := by
    obtain ⟨d, -, -, hdepth⟩ := mem_entries (Document.names_nodup hparse) he
    exact ((h.depths d.name e.depth).1 hdepth).1
  direct := by
    rw [hselected]
    exact length_entries_zero (Document.names_nodup hparse) h hdirect
  ordered := s.ordered
  external := hexternal.symm
  undefined name hname := ((h.external name).1 hname).1
  kept name hname := ((h.external name).1 hname).2.1

end Report

end IrExcerpt
