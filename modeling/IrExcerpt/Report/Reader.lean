import IrExcerpt.Report
import IrExcerpt.Text.JsonReader

/-!
# Reading reports

A report is read from its text by the names of its fields, in whatever order
they stand.
-/

namespace IrExcerpt.Report

/-- The function that a JSON value describes. -/
def Entry.ofJson? (json : Json) : Option Entry := do
  let name ← (← json.get? "name").string?
  let depth ← (← json.get? "depth").nat?
  match ← (← (← json.get? "line_range").array?).mapM Json.nat? with
  | [first, last] => some ⟨name, depth, ⟨first, last⟩⟩
  | _ => none

/-- The report that a JSON value describes. -/
def ofJson? (json : Json) : Option Report := do
  let input ← (← json.get? "input").string?
  let output ← (← json.get? "output").string?
  let digest ← (← json.get? "input_sha256").string?
  let time ← (← json.get? "generated_at").string?
  let depth ← (← json.get? "recursion_depth").nat?
  let functions ← (← (← json.get? "functions").array?).mapM Entry.ofJson?
  let externalCallees ← (← (← json.get? "external_callees").array?).mapM Json.string?
  return ⟨.ofString input, .ofString output, digest, time, depth, functions, externalCallees⟩

/-- Reads the text of a report. -/
def read? (text : String) : Option Report := do
  ofJson? (← Json.read? text)

end IrExcerpt.Report
