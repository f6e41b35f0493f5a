import IrExcerpt.Selection.Basic

/-!
# Excerpts

The excerpt of a document for a selection: every line that is not part of a
definition, in order, followed by the selected definitions in document order.
A definition is set off by one empty line, unless nothing precedes it or the
text before it ends in two line feeds.
-/

namespace IrExcerpt.Excerpt

/-- The lines of an entity that every excerpt keeps. -/
def keptLines (doc : Document) : Entity → List String
  | .definition _ => []
  | e => doc.linesIn e.range

/-- The lines that stand outside all definitions. -/
def preamble (doc : Document) : List String :=
  doc.entities.flatMap (keptLines doc)

/-- Adds a line and ends it. -/
def pushLine (out line : String) : String := out ++ line ++ "\n"

/-- Adds an empty line, unless there is nothing before it or the text ends in two
line feeds. -/
def separate (out : String) : String :=
  if !out.isEmpty && !out.endsWith "\n\n" then out ++ "\n" else out

/-- Adds the lines of a definition, set off from what stands before them. -/
def pushBody (out : String) (body : List String) : String :=
  body.foldl pushLine (separate out)

/-- The text of the excerpt. -/
def render (doc : Document) (s : Selection) : String :=
  let bodies := (s.inDocumentOrder doc).filterMap fun name => (doc.find? name).map doc.body
  bodies.foldl pushBody ((preamble doc).foldl pushLine "")

end IrExcerpt.Excerpt
