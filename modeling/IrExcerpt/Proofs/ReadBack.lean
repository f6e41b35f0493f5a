import IrExcerpt.Proofs.Calls
import IrExcerpt.Proofs.ExcerptLines

/-!
# Excerpts are read back

An excerpt moves every line outside the definitions to the front and leaves some
definitions out. None of this is visible to a reader, because an excerpt is made
of blocks as well: those of the document, less the definitions that are not
selected, with an empty line put in here and there. A block is read the same
wherever it stands, so the reader finds exactly these blocks.

Where the separating lines stand depends on what has been written before them.
`foldl_addDefinition` says all that matters about it: behind what was there come
the definitions in order, and whatever else comes is an empty line.
-/

namespace IrExcerpt.Document

/-- The block behind blocks, with a separating line if one is needed. -/
def addDefinition (out : List Block) (f : String × List String) : List Block :=
  if Excerpt.setOff (out.flatMap Block.lines) then
    out ++ [.definition f.1 f.2]
  else out ++ [.other "", .definition f.1 f.2]

theorem lines_addDefinition (out : List Block) (f : String × List String) :
    (addDefinition out f).flatMap Block.lines =
      Excerpt.append (out.flatMap Block.lines) f.2 := by
  unfold addDefinition Excerpt.append
  split <;> simp [Block.lines]

theorem lines_foldl_addDefinition (fs : List (String × List String))
    (out : List Block) :
    (fs.foldl addDefinition out).flatMap Block.lines =
      (fs.map Prod.snd).foldl Excerpt.append (out.flatMap Block.lines) := by
  induction fs generalizing out with
  | nil => rfl
  | cons f fs ih =>
      rw [List.foldl_cons, ih, lines_addDefinition, List.map_cons,
        List.foldl_cons]

/-- What definitions add to the blocks before them: themselves in order, and
empty lines. -/
structure Appended (fs : List (String × List String)) (added : List Block) :
    Prop where
  functions : added.flatMap Block.functions = fs
  members : ∀ b ∈ added, b = .other "" ∨ ∃ f ∈ fs, b = .definition f.1 f.2

theorem foldl_addDefinition (fs : List (String × List String))
    (out : List Block) :
    ∃ added, fs.foldl addDefinition out = out ++ added ∧ Appended fs added := by
  induction fs generalizing out with
  | nil => exact ⟨[], by simp, rfl, by simp⟩
  | cons f fs ih =>
      obtain ⟨added, hrest, hfs, hmembers⟩ := ih (addDefinition out f)
      have hlater : ∀ b ∈ added,
          b = .other "" ∨ ∃ g ∈ f :: fs, b = .definition g.1 g.2 := by
        intro b hb
        rcases hmembers b hb with heq | ⟨g, hg, heq⟩
        · exact .inl heq
        · exact .inr ⟨g, List.mem_cons_of_mem _ hg, heq⟩
      have hself : ∃ g ∈ f :: fs,
          Block.definition f.1 f.2 = .definition g.1 g.2 :=
        ⟨f, List.mem_cons_self, rfl⟩
      rw [List.foldl_cons, hrest]
      unfold addDefinition
      split
      · refine ⟨.definition f.1 f.2 :: added, by simp, ?_, ?_⟩
        · rw [List.flatMap_cons, hfs]
          rfl
        · intro b hb
          rcases List.mem_cons.1 hb with rfl | hb
          · exact .inr hself
          · exact hlater b hb
      · refine ⟨.other "" :: .definition f.1 f.2 :: added, by simp, ?_, ?_⟩
        · rw [List.flatMap_cons, List.flatMap_cons, hfs]
          rfl
        · intro b hb
          rcases List.mem_cons.1 hb with rfl | hb
          · exact .inl rfl
          · rcases List.mem_cons.1 hb with rfl | hb
            · exact .inr hself
            · exact hlater b hb

namespace Appended

variable {fs : List (String × List String)} {added : List Block}

/-- A view that definitions are not in sees empty lines at most. -/
theorem flatMap_eq_replicate (h : Appended fs added)
    (view : Block → List String)
    (hdef : ∀ name body, view (.definition name body) = [])
    (hother : view (.other "") = [""]) :
    ∃ k, added.flatMap view = List.replicate k "" := by
  refine ⟨_, List.eq_replicate_of_mem fun line hline => ?_⟩
  obtain ⟨b, hb, hview⟩ := List.mem_flatMap.1 hline
  rcases h.members b hb with rfl | ⟨f, -, rfl⟩
  · rw [hother] at hview
    exact List.mem_singleton.1 hview
  · rw [hdef] at hview
    cases hview

theorem declarations (h : Appended fs added) :
    added.flatMap Block.declarations = [] := by
  rw [List.flatMap_eq_nil_iff]
  intro b hb
  rcases h.members b hb with rfl | ⟨f, -, rfl⟩ <;> rfl

theorem names (h : Appended fs added) :
    added.filterMap Block.name? = fs.map Prod.fst := by
  rw [← names_ofBlocks, Document.names, functions_ofBlocks, h.functions]

theorem valid (h : Appended fs added)
    (hfs : ∀ f ∈ fs, (Block.definition f.1 f.2).Valid) :
    ∀ b ∈ added, b.Valid := by
  intro b hb
  rcases h.members b hb with rfl | ⟨f, hf, rfl⟩
  · change lineKind "".toList = .other
    rfl
  · exact hfs f hf

end Appended

/-! ## The blocks of an excerpt -/

/-- The functions of a document that are selected. -/
def selected (doc : Document) (s : Selection) : List (String × List String) :=
  doc.functions.filter fun f => s.contains f.1

/-- The lines of the selected functions, found name by name. -/
theorem filterMap_inDocumentOrder {doc : Document} (hnodup : doc.names.Nodup)
    (s : Selection) :
    (s.inDocumentOrder doc).filterMap
        (fun name => (doc.find? name).map doc.body) =
      (doc.selected s).map Prod.snd := by
  rw [inDocumentOrder_eq hnodup, names, List.filter_map, List.filterMap_map,
    selected, ← List.filterMap_eq_map]
  refine List.filterMap_congr fun f hf => ?_
  have hmem : (f.1, f.2) ∈ doc.functions := (List.mem_filter.1 hf).1
  rw [Function.comp_apply, find?_body, (mem_functions_iff hnodup).1 hmem]
  rfl

theorem lines_excerpt {doc : Document} (hnodup : doc.names.Nodup)
    (s : Selection) :
    Excerpt.lines doc s = ((doc.selected s).map Prod.snd).foldl Excerpt.append
      (Excerpt.preamble doc) := by
  rw [Excerpt.lines, filterMap_inDocumentOrder hnodup]

/-- The blocks that stand outside definitions. -/
def keptBlocks (bs : List Block) : List Block :=
  bs.filter fun b => b.name?.isNone

theorem flatMap_keptBlocks (view kept : Block → List α)
    (hdef : ∀ name body, kept (.definition name body) = [])
    (hdecl : ∀ name line, kept (.declaration name line) =
      view (.declaration name line))
    (hother : ∀ line, kept (.other line) = view (.other line))
    (bs : List Block) : (keptBlocks bs).flatMap view = bs.flatMap kept := by
  induction bs with
  | nil => rfl
  | cons b bs ih =>
      cases b with
      | definition name body =>
          rw [List.flatMap_cons, hdef, ← ih]
          rfl
      | declaration name line =>
          rw [List.flatMap_cons, hdecl, ← ih]
          rfl
      | other line =>
          rw [List.flatMap_cons, hother, ← ih]
          rfl

theorem functions_keptBlocks (bs : List Block) :
    (keptBlocks bs).flatMap Block.functions = [] := by
  rw [List.flatMap_eq_nil_iff]
  intro b hb
  have hnone := (List.mem_filter.1 hb).2
  cases b with
  | definition name body => cases hnone
  | declaration name line => rfl
  | other line => rfl

theorem filterMap_keptBlocks (bs : List Block) :
    (keptBlocks bs).filterMap Block.name? = [] := by
  rw [← names_ofBlocks, names, functions_ofBlocks, functions_keptBlocks]
  rfl

theorem mem_functions_flatMap {bs : List Block} {f : String × List String}
    (h : f ∈ bs.flatMap Block.functions) : Block.definition f.1 f.2 ∈ bs := by
  obtain ⟨b, hb, hf⟩ := List.mem_flatMap.1 h
  cases b with
  | definition name body =>
      obtain rfl := List.mem_singleton.1 hf
      exact hb
  | declaration name line => cases hf
  | other line => cases hf

/-- An excerpt of blocks is blocks again. -/
theorem excerpt_ofBlocks {bs : List Block} (hvalid : ∀ b ∈ bs, b.Valid)
    (hnodup : (bs.filterMap Block.name?).Nodup) (s : Selection) :
    ∃ added, Appended ((ofBlocks bs).selected s) added ∧
      ofLines (Excerpt.lines (ofBlocks bs) s) =
        .ok (ofBlocks (keptBlocks bs ++ added)) := by
  have hnames : (ofBlocks bs).names.Nodup := by
    rw [names_ofBlocks]
    exact hnodup
  obtain ⟨added, hsplit, happ⟩ :=
    foldl_addDefinition ((ofBlocks bs).selected s) (keptBlocks bs)
  refine ⟨added, happ, ofLines_eq_ok_iff.2 ⟨_, ?_, ?_, ?_, rfl⟩⟩
  · intro b hb
    rcases List.mem_append.1 hb with hb | hb
    · exact hvalid b (List.mem_filter.1 hb).1
    · refine happ.valid (fun f hf => hvalid _ ?_) b hb
      have hf' := (List.mem_filter.1 hf).1
      rw [functions_ofBlocks] at hf'
      exact mem_functions_flatMap hf'
  · rw [List.filterMap_append, filterMap_keptBlocks, happ.names]
    exact (List.filter_sublist.map Prod.fst).nodup hnames
  · have hpre : (keptBlocks bs).flatMap Block.lines =
        bs.flatMap Block.keptLines :=
      flatMap_keptBlocks Block.lines Block.keptLines (fun _ _ => rfl)
        (fun _ _ => rfl) (fun _ => rfl) bs
    rw [← hsplit, lines_foldl_addDefinition, lines_excerpt hnames,
      preamble_ofBlocks, hpre]

/-- What a document that has been read back shares with the one that the excerpt
was taken from. -/
structure ReadBack (doc : Document) (s : Selection) (doc' : Document) :
    Prop where
  lines : doc'.lines = Excerpt.lines doc s
  functions : doc'.functions = doc.selected s
  declarations : doc'.declarations = doc.declarations
  otherLines : ∃ k, doc'.otherLines = doc.otherLines ++ List.replicate k ""
  preamble : ∃ k, Excerpt.preamble doc' =
    Excerpt.preamble doc ++ List.replicate k ""

theorem ofLines_excerpt {bs : List Block} (hvalid : ∀ b ∈ bs, b.Valid)
    (hnodup : (bs.filterMap Block.name?).Nodup) (s : Selection) :
    ∃ doc', ofLines (Excerpt.lines (ofBlocks bs) s) = .ok doc' ∧
      ReadBack (ofBlocks bs) s doc' := by
  obtain ⟨added, happ, hread⟩ := excerpt_ofBlocks hvalid hnodup s
  refine ⟨_, hread, ?_, ?_, ?_, ?_, ?_⟩
  · obtain ⟨bs', -, -, hlines, heq⟩ := ofLines_eq_ok_iff.1 hread
    rw [heq, ← hlines]
    rfl
  · rw [functions_ofBlocks, List.flatMap_append, functions_keptBlocks,
      happ.functions]
    rfl
  · rw [declarations_ofBlocks, declarations_ofBlocks, List.flatMap_append,
      happ.declarations, List.append_nil]
    exact flatMap_keptBlocks _ _ (fun _ _ => rfl) (fun _ _ => rfl)
      (fun _ => rfl) bs
  · obtain ⟨k, hk⟩ := happ.flatMap_eq_replicate Block.otherLines
      (fun _ _ => rfl) rfl
    refine ⟨k, ?_⟩
    rw [otherLines_ofBlocks, otherLines_ofBlocks, List.flatMap_append, hk,
      flatMap_keptBlocks _ _ (fun _ _ => rfl) (fun _ _ => rfl) (fun _ => rfl) bs]
  · obtain ⟨k, hk⟩ := happ.flatMap_eq_replicate Block.keptLines
      (fun _ _ => rfl) rfl
    refine ⟨k, ?_⟩
    rw [preamble_ofBlocks, preamble_ofBlocks, List.flatMap_append, hk,
      flatMap_keptBlocks _ _ (fun _ _ => rfl) (fun _ _ => rfl) (fun _ => rfl) bs]

/-! ## From lines to text -/

theorem lines_of_parse {text : String} {doc : Document}
    (h : parse text = .ok doc) : doc.lines = Text.lines text := by
  obtain ⟨bs, -, -, hlines, rfl⟩ := blocks_of_parse h
  exact hlines

theorem mem_lines_of_mem_linesIn {doc : Document} {r : LineRange}
    {line : String} (h : line ∈ doc.linesIn r) : line ∈ doc.lines :=
  List.mem_of_mem_drop (List.mem_of_mem_take h)

theorem mem_foldl_append {line : String} {bodies : List (List String)}
    {out : List String} (h : line ∈ bodies.foldl Excerpt.append out) :
    line ∈ out ∨ (∃ body ∈ bodies, line ∈ body) ∨ line = "" := by
  induction bodies generalizing out with
  | nil => exact .inl h
  | cons body bodies ih =>
      rcases ih h with hmem | ⟨b, hb, hmem⟩ | hempty
      · unfold Excerpt.append at hmem
        split at hmem
        · rcases List.mem_append.1 hmem with hmem | hmem
          · exact .inl hmem
          · exact .inr (.inl ⟨body, List.mem_cons_self, hmem⟩)
        · rcases List.mem_append.1 hmem with hmem | hmem
          · exact .inl hmem
          · rcases List.mem_cons.1 hmem with hempty | hmem
            · exact .inr (.inr hempty)
            · exact .inr (.inl ⟨body, List.mem_cons_self, hmem⟩)
      · exact .inr (.inl ⟨b, List.mem_cons_of_mem _ hb, hmem⟩)
      · exact .inr (.inr hempty)

/-- An excerpt has no lines but those of its document and empty ones. -/
theorem mem_excerpt {doc : Document} {s : Selection} {line : String}
    (h : line ∈ Excerpt.lines doc s) : line ∈ doc.lines ∨ line = "" := by
  rcases mem_foldl_append h with hmem | ⟨body, hbody, hmem⟩ | hempty
  · obtain ⟨e, -, hmem⟩ := List.mem_flatMap.1 hmem
    cases e with
    | definition d => cases hmem
    | declaration name n => exact .inl (mem_lines_of_mem_linesIn hmem)
    | other r => exact .inl (mem_lines_of_mem_linesIn hmem)
  · obtain ⟨name, -, hfind⟩ := List.mem_filterMap.1 hbody
    obtain ⟨d, -, rfl⟩ := Option.map_eq_some_iff.1 hfind
    exact .inl (mem_lines_of_mem_linesIn hmem)
  · exact .inr hempty

/-- No line of the document holds or swallows a line end. -/
def CleanLines (doc : Document) : Prop :=
  ∀ line ∈ doc.lines,
    '\n' ∉ line.toList ∧ Text.endsInReturn line = false

theorem cleanLines_of_parse {text : String} {doc : Document}
    (h : parse text = .ok doc)
    (hreturn : ∀ line ∈ Text.lines text, Text.endsInReturn line = false) :
    doc.CleanLines := by
  intro line hline
  rw [lines_of_parse h] at hline
  exact ⟨Text.newline_not_mem_lines hline, hreturn line hline⟩

theorem clean_excerpt {doc : Document} (hclean : doc.CleanLines)
    {s : Selection} {line : String} (h : line ∈ Excerpt.lines doc s) :
    '\n' ∉ line.toList ∧ Text.endsInReturn line = false := by
  rcases mem_excerpt h with hmem | rfl
  · exact hclean line hmem
  · exact ⟨by simp, rfl⟩

theorem lines_render {doc : Document} (hclean : doc.CleanLines)
    (s : Selection) :
    Text.lines (Excerpt.render doc s) = Excerpt.lines doc s := by
  rw [Excerpt.render_eq_unlines fun _ hline => (clean_excerpt hclean hline).1]
  exact Text.lines_unlines fun _ hline => clean_excerpt hclean hline

theorem returns_sampleText :
    ∀ line ∈ Text.lines sampleText, Text.endsInReturn line = false := by
  rw [← lines_of_parse parse_sampleText]
  decide +kernel

/-- The text of an excerpt is a document, and what it contains is known. -/
theorem readBack_render {text : String} {doc : Document}
    (h : parse text = .ok doc) (hclean : doc.CleanLines) (s : Selection) :
    ∃ doc', parse (Excerpt.render doc s) = .ok doc' ∧ ReadBack doc s doc' := by
  obtain ⟨bs, hvalid, hnodup, -, rfl⟩ := blocks_of_parse h
  rw [parse, lines_render hclean]
  exact ofLines_excerpt hvalid hnodup s

/-- Rendered excerpts parse back to exactly what was selected: the definitions
are the selected ones that the document has, in its order and with the same
lines; the declarations are those of the document; and the other lines are those
of the document, followed by empty lines only. -/
theorem parse_render {text : String} {doc : Document}
    (h : parse text = .ok doc)
    (hreturn : ∀ line ∈ Text.lines text, Text.endsInReturn line = false)
    (s : Selection) :
    ∃ doc', parse (Excerpt.render doc s) = .ok doc' ∧
      doc'.functions = doc.functions.filter (fun f => s.contains f.1) ∧
      doc'.declarations = doc.declarations ∧
      ∃ k, doc'.otherLines = doc.otherLines ++ List.replicate k "" := by
  obtain ⟨doc', hparse, hback⟩ :=
    readBack_render h (cleanLines_of_parse h hreturn) s
  exact ⟨doc', hparse, hback.functions, hback.declarations, hback.otherLines⟩

theorem parse_render_sample :
    parse sampleText = .ok sample ∧
      (∀ line ∈ Text.lines sampleText, Text.endsInReturn line = false) ∧
      ∃ doc', parse (Excerpt.render sample
          ((Selection.empty.insert "b" 3).insert "x" 0)) = .ok doc' ∧
        doc'.functions = [("b", ["define void @b() \x7b ; \x7d", "  call void @a()",
          "  call void @p()", "\x7d"])] ∧
        doc'.declarations = [(some "p", "declare void @p()")] ∧
        ∃ k, doc'.otherLines = ["; between"] ++ List.replicate k "" :=
  ⟨parse_sampleText, returns_sampleText,
    parse_render parse_sampleText returns_sampleText
      ((Selection.empty.insert "b" 3).insert "x" 0)⟩

end IrExcerpt.Document
