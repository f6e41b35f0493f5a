import IrExcerpt.Proofs.JsonTexts
import IrExcerpt.Proofs.TextBytes
import IrExcerpt.Report.Reader

/-!
# Written reports are read back

The text of a report determines the report. Its JSON is read back, so it is
enough that each field of a report has a field of its own there, and that the
paths, which are written as texts, are the only ones with these texts.
-/

namespace IrExcerpt

/-- A path that is text is the one that this text spells. -/
theorem Path.ofString_of_toString? {p : Path} {text : String}
    (h : p.toString? = some text) : ofString text = p := by
  have hbytes : text.toUTF8 = ⟨p.bytes.toArray⟩ := by
    unfold toString? String.fromUTF8? at h
    split at h
    · cases h
      rfl
    · cases h
  rw [ofString, hbytes, ByteArray.toList, Text.toList_loop]
  rfl

namespace Report

theorem Entry.ofJson?_toJson (e : Entry) : ofJson? e.toJson = some e := rfl

/-- Items that are written one by one are read one by one. -/
theorem mapM_map_eq_some {α : Type} {write : α → Json} {read : Json → Option α}
    (h : ∀ x, read (write x) = some x) (xs : List α) :
    (xs.map write).mapM read = some xs := by
  have hback : read ∘ write = fun x => pure (id x) := funext h
  rw [List.mapM_map, hback, List.mapM_pure, List.map_id]
  rfl

theorem ofJson?_of_toJson? {r : Report} {json : Json}
    (h : r.toJson? = some json) : ofJson? json = some r := by
  obtain ⟨input, hinput, h⟩ := Option.bind_eq_some_iff.1 h
  obtain ⟨output, houtput, h⟩ := Option.bind_eq_some_iff.1 h
  cases h
  have hname : ∀ name, (Json.string name).string? = some name := fun _ => rfl
  show (List.mapM Entry.ofJson? (r.functions.map Entry.toJson)).bind (fun functions =>
    (List.mapM Json.string? (r.externalCallees.map Json.string)).bind fun callees =>
      some (Report.mk (.ofString input) (.ofString output) r.digest r.time
        r.depth functions callees)) = some r
  rw [mapM_map_eq_some Entry.ofJson?_toJson, mapM_map_eq_some hname,
    Path.ofString_of_toString? hinput, Path.ofString_of_toString? houtput]
  rfl

/-- A report is read from its text. -/
theorem read?_of_text? {r : Report} {text : String} (h : r.text? = some text) :
    read? text = some r := by
  obtain ⟨json, hjson, rfl⟩ := Option.map_eq_some_iff.1 h
  rw [read?, Json.read?_text]
  exact ofJson?_of_toJson? hjson

end Report

end IrExcerpt
