import IrExcerpt.Document.Basic
import IrExcerpt.Document.Structure
import IrExcerpt.Document.Symbol
import IrExcerpt.Text.Lines

/-!
# Reading a document

A text is read line by line. Between definitions a line is a `define` line, a
`declare` line or something else; a `define` line opens a definition, which
then takes every line up to the one that closes its braces. The reader is a
fold of `Reader.step` over the lines, and all it remembers is how many lines it
has read, the entities so far and the definition that is open. So reading one
text after another is reading their concatenation.
-/

namespace IrExcerpt

/-- Why a text is no document. -/
inductive ParseFault where
  | missingName
  | unbalancedBrace
  | unterminatedBody
  | duplicateName (name : String)
deriving DecidableEq, Repr

/-- A fault and the line it is reported at. -/
structure ParseError where
  line : Nat
  fault : ParseFault
deriving DecidableEq, Repr

/-- What is wrong, in words. -/
def ParseFault.message : ParseFault → String
  | .missingName => "function header without an extractable name"
  | .unbalancedBrace => "unbalanced closing brace in function body"
  | .unterminatedBody => "unterminated function body (end of file reached with unbalanced braces)"
  | .duplicateName name => "duplicate definition of function '" ++ name ++ "'"

namespace Document

open IrExcerpt.Text

/-- What a line is when no definition is open. -/
inductive LineKind where
  | define
  | declare
  | other
deriving DecidableEq, Repr

/-- Whether a text starts with a keyword that a blank ends. -/
def startsWithKeyword (keyword line : List Char) : Bool :=
  keyword.isPrefixOf line &&
    match line.drop keyword.length with
    | c :: _ => isBlank c
    | [] => false

/-- The kind of a line, from its first word. -/
def lineKind (line : List Char) : LineKind :=
  let text := trimStart line
  if startsWithKeyword ['d', 'e', 'f', 'i', 'n', 'e'] text then .define
  else if startsWithKeyword ['d', 'e', 'c', 'l', 'a', 'r', 'e'] text then .declare
  else .other

/-- A definition whose end has not been reached. -/
structure OpenDefinition where
  name : String
  first : Nat
  scan : BodyScan
deriving DecidableEq, Repr

/-- The state of reading: lines read, entities newest first, open definition. -/
structure Reader where
  line : Nat
  entities : List Entity
  current : Option OpenDefinition
deriving DecidableEq, Repr

namespace Reader

/-- Nothing read yet. -/
def start : Reader := ⟨0, [], none⟩

/-- Line `n` joins the run of other lines before it, or starts one. -/
def addOther (n : Nat) : List Entity → List Entity
  | .other r :: rest => .other ⟨r.first, n⟩ :: rest
  | entities => .other ⟨n, n⟩ :: entities

/-- Line `n` has been fed to the open definition `d`. -/
def advance (entities : List Entity) (n : Nat) (d : OpenDefinition) : Except ParseError Reader :=
  match d.scan.verdict with
  | .unbalanced => .error ⟨n, .unbalancedBrace⟩
  | .unfinished => .ok ⟨n, entities, some d⟩
  | .closed =>
    if entities.any (Entity.defines d.name) then .error ⟨d.first, .duplicateName d.name⟩
    else .ok ⟨n, .definition ⟨d.name, ⟨d.first, n⟩⟩ :: entities, none⟩

/-- Reads one more line. -/
def step (r : Reader) (line : String) : Except ParseError Reader :=
  let cs := line.toList
  let n := r.line + 1
  match r.current with
  | some d => advance r.entities n { d with scan := d.scan.feed cs }
  | none =>
    match lineKind cs with
    | .other => .ok ⟨n, addOther n r.entities, none⟩
    | .declare =>
      let name := (headerSymbol? cs).map fun (name, _) => String.ofList name
      .ok ⟨n, .declaration name n :: r.entities, none⟩
    | .define =>
      match headerSymbol? cs with
      | none => .error ⟨n, .missingName⟩
      | some (name, rest) => advance r.entities n ⟨String.ofList name, n, BodyScan.start.feed rest⟩

/-- The entities in document order, once every line has been read. -/
def finish (r : Reader) : Except ParseError (List Entity) :=
  match r.current with
  | some d => .error ⟨d.first, .unterminatedBody⟩
  | none => .ok r.entities.reverse

end Reader

/-- The document a list of lines forms. -/
def ofLines (ls : List String) : Except ParseError Document := do
  let r ← ls.foldlM Reader.step Reader.start
  let entities ← r.finish
  return ⟨ls, entities⟩

/-- The document a text is, or its first fault. -/
def parse (text : String) : Except ParseError Document :=
  ofLines (Text.lines text)

end Document

end IrExcerpt
