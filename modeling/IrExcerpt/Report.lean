import IrExcerpt.Selection.Basic
import IrExcerpt.Storage.Path
import IrExcerpt.Text.Json

/-!
# Reports

A report says what an excerpt holds: where it was taken from and to, the digest
of the text, the functions with their depths and lines in document order, and
the functions that are called and not defined. It is written as JSON, which
only text can stand in, so a path that is no text has no report.
-/

namespace IrExcerpt

/-- A function of an excerpt. -/
structure Report.Entry where
  name : String
  depth : Nat
  range : LineRange
deriving DecidableEq, Repr

/-- What an excerpt holds. -/
structure Report where
  input : Path
  output : Path
  /-- The digest of the text that the excerpt was taken from. -/
  digest : String
  /-- When the report was made. -/
  time : String
  /-- The largest depth that was asked for. -/
  depth : Nat
  functions : List Report.Entry
  externalCallees : List String
deriving DecidableEq, Repr

namespace Report

/-- The selected functions of a document, in document order. -/
def entries (doc : Document) (s : Selection) : List Entry :=
  (s.inDocumentOrder doc).filterMap fun name => do
    let d ← doc.find? name
    let depth ← s.depth? name
    return ⟨name, depth, d.range⟩

/-- The report on a selection from a document. -/
def ofSelection (input output : Path) (digest time : String) (depth : Nat) (doc : Document) (s : Selection) :
    Report :=
  { input, output, digest, time, depth
    functions := entries doc s
    externalCallees := s.external }

/-- A function as JSON. -/
def Entry.toJson (e : Entry) : Json :=
  .object [
    ("name", .string e.name),
    ("depth", .number e.depth),
    ("line_range", .array [.number e.range.first, .number e.range.last])]

/-- A report as JSON, if its paths are text. -/
def toJson? (r : Report) : Option Json := do
  let input ← r.input.toString?
  let output ← r.output.toString?
  return .object [
    ("input", .string input),
    ("output", .string output),
    ("input_sha256", .string r.digest),
    ("generated_at", .string r.time),
    ("recursion_depth", .number r.depth),
    ("functions", .array (r.functions.map Entry.toJson)),
    ("external_callees", .array (r.externalCallees.map .string))]

/-- The text of a report, if its paths are text. -/
def text? (r : Report) : Option String :=
  r.toJson?.map Json.text

end Report

end IrExcerpt
