/-!
# Documents

A document is its lines together with their top-level structure: definitions
that span a range of lines, one-line declarations, and runs of other lines.
Line numbers start at one and ranges include both ends.
-/

namespace IrExcerpt

/-- Lines `first` to `last`, both included, counted from one. -/
structure LineRange where
  first : Nat
  last : Nat
deriving DecidableEq, Repr

/-- A function definition, from its header line to its closing brace. -/
structure Definition where
  name : String
  range : LineRange
deriving DecidableEq, Repr

/-- The top-level items of a document. -/
inductive Entity where
  | definition (d : Definition)
  /-- A declaration; its name is missing when the line holds no `@symbol(`. -/
  | declaration (name : Option String) (line : Nat)
  /-- Types, globals, attributes, metadata, comments and empty lines. -/
  | other (range : LineRange)
deriving DecidableEq, Repr

/-- The definition an entity is, if it is one. -/
def Entity.definition? : Entity → Option Definition
  | .definition d => some d
  | _ => none

/-- The lines an entity covers. -/
def Entity.range : Entity → LineRange
  | .definition d => d.range
  | .declaration _ n => ⟨n, n⟩
  | .other r => r

/-- Whether the entity defines `name`. -/
def Entity.defines (name : String) : Entity → Bool
  | .definition d => d.name == name
  | _ => false

/-- The lines of a text and the entities they form, in document order. -/
structure Document where
  lines : List String
  entities : List Entity
deriving DecidableEq, Repr

namespace Document

/-- The definitions in document order. -/
def definitions (doc : Document) : List Definition :=
  doc.entities.filterMap Entity.definition?

/-- The definition of `name`. -/
def find? (doc : Document) (name : String) : Option Definition :=
  (doc.entities.find? (Entity.defines name)).bind Entity.definition?

/-- Whether `name` is defined. -/
def contains (doc : Document) (name : String) : Bool :=
  doc.entities.any (Entity.defines name)

/-- Where among the entities `name` is defined. -/
def position? (doc : Document) (name : String) : Option Nat :=
  doc.entities.findIdx? (Entity.defines name)

/-- The number of definitions. -/
def functionCount (doc : Document) : Nat :=
  doc.definitions.length

/-- The lines of a range. -/
def linesIn (doc : Document) (r : LineRange) : List String :=
  (doc.lines.drop (r.first - 1)).take (r.last + 1 - r.first)

/-- Header, body and closing brace of a definition. -/
def body (doc : Document) (d : Definition) : List String :=
  doc.linesIn d.range

end Document

end IrExcerpt
