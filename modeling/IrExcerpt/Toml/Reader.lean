import IrExcerpt.Toml.Number
import IrExcerpt.Toml.Tree

/-!
# Reading TOML

The grammar of TOML 1.0. Lists and tables in braces may lie in each other, and
a dotted key may have parts, up to a limit.
-/

namespace IrExcerpt.Toml

/-- How deep values may lie in each other, and how many parts a key may have. -/
def nestLimit : Nat := 79

/-! ## Between the words -/

/-- A blank inside a line. -/
def isBlank (c : Char) : Bool := c = ' ' || c = '\t'

/-- What comes behind blanks. -/
def skipBlanks (cs : List Char) : List Char := cs.dropWhile isBlank

/-- Whether a character may stand in a comment. -/
def inComment (c : Char) : Bool := c != '\n' && !Quoted.isControl c

/-- What comes behind a comment, if there is one. -/
def skipComment : List Char → List Char
  | '#' :: rest => rest.dropWhile inComment
  | cs => cs

/-- What comes behind the end of a line, before which blanks and a comment may
stand. -/
def lineEnd? (cs : List Char) : Option (List Char) :=
  match skipComment (skipBlanks cs) with
  | [] => some []
  | '\n' :: rest => some rest
  | '\r' :: '\n' :: rest => some rest
  | _ => none

/-- What comes behind blanks, line ends and comments. A comment that is not
ended by a line end stops at what ends it. -/
def skipGaps (comment : Bool) : List Char → List Char
  | [] => []
  | '\r' :: '\n' :: rest => skipGaps false rest
  | c :: rest =>
    if c = '\n' then skipGaps false rest
    else if comment then (if inComment c then skipGaps true rest else c :: rest)
    else if c = '#' then skipGaps true rest
    else if isBlank c then skipGaps false rest
    else c :: rest

/-! ## Keys -/

/-- A character of a key that needs no quotes. -/
def isBare (c : Char) : Bool := c.isAlphanum || c = '-' || c = '_'

/-- One part of a key. -/
def keyPart : List Char → Quoted.Reading
  | '"' :: rest => Quoted.basic rest
  | '\'' :: rest => Quoted.literal rest
  | cs =>
    let name := cs.takeWhile isBare
    if name.isEmpty then none else some (name, cs.dropWhile isBare)

/-- A dotted key of at most `room` parts, with the blanks around it. -/
def key? : (room : Nat) → List Char → Option (List String × List Char)
  | 0, _ => none
  | room + 1, cs => do
    let (part, rest) ← keyPart (skipBlanks cs)
    match skipBlanks rest with
    | '.' :: rest => do
      let (path, rest) ← key? room rest
      return (String.ofList part :: path, rest)
    | rest => return ([String.ofList part], rest)

/-! ## Values -/

/-- How a value is read. -/
abbrev ValueReader := List Char → Option (Value × List Char)

/-- Items of a list up to its closing bracket, at most `fuel` of them. -/
def items? (value : ValueReader) : (fuel : Nat) → List Char → Option (List Value × List Char)
  | 0, _ => none
  | fuel + 1, cs =>
    match skipGaps false cs with
    | ']' :: rest => some ([], rest)
    | cs => do
      let (item, rest) ← value cs
      match skipGaps false rest with
      | ',' :: rest => do
        let (items, rest) ← items? value fuel rest
        return (item :: items, rest)
      | ']' :: rest => return ([item], rest)
      | _ => none

/-- A key, an equals sign and a value. -/
def pair? (value : ValueReader) (cs : List Char) : Option ((List String × Value) × List Char) := do
  let (path, rest) ← key? nestLimit cs
  match rest with
  | '=' :: rest => do
    let (v, rest) ← value (skipBlanks rest)
    return ((path, v), rest)
  | _ => none

/-- Pairs up to the closing brace, at most `fuel` of them. There is at least
one. -/
def pairs? (value : ValueReader) : (fuel : Nat) → List Char → Option (List (List String × Value) × List Char)
  | 0, _ => none
  | fuel + 1, cs => do
    let (pair, rest) ← pair? value cs
    match skipBlanks rest with
    | ',' :: rest => do
      let (pairs, rest) ← pairs? value fuel rest
      return (pair :: pairs, rest)
    | '\x7d' :: rest => return ([pair], rest)
    | _ => none

/-- A value that holds no other values. -/
def scalar? : ValueReader
  | 't' :: 'r' :: 'u' :: 'e' :: rest => some (.boolean true, rest)
  | 'f' :: 'a' :: 'l' :: 's' :: 'e' :: rest => some (.boolean false, rest)
  | '"' :: rest => (Quoted.read ('"' :: rest)).map fun (text, rest) => (.string (String.ofList text), rest)
  | '\'' :: rest => (Quoted.read ('\'' :: rest)).map fun (text, rest) => (.string (String.ofList text), rest)
  | cs => Number.read cs

/-- A value that holds at most `room` levels of other values. -/
def value? : (room : Nat) → ValueReader
  | 0, cs => scalar? cs
  | room + 1, cs =>
    match cs with
    | '[' :: rest => (items? (value? room) rest.length rest).map fun (items, rest) => (.array items, rest)
    | '\x7b' :: rest =>
      match skipBlanks rest with
      | '\x7d' :: rest => some (.table [], rest)
      | rest => do
        let (pairs, rest) ← pairs? (value? room) rest.length rest
        let fields ← inline? pairs
        return (.table fields, rest)
    | cs => scalar? cs

/-! ## Statements -/

/-- The header of a table, behind its opening bracket. -/
def header? (cs : List Char) : Option (Statement × List Char) :=
  match cs with
  | '[' :: rest => do
    match ← key? nestLimit rest with
    | (path, ']' :: ']' :: rest) => return (.addTable path, rest)
    | _ => none
  | cs => do
    match ← key? nestLimit cs with
    | (path, ']' :: rest) => return (.openTable path, rest)
    | _ => none

/-- A statement that starts here. -/
def statement? (cs : List Char) : Option (Statement × List Char) :=
  match cs with
  | '[' :: rest => header? rest
  | cs => (pair? (value? nestLimit) cs).map fun ((path, value), rest) => (.assign path value, rest)

/-- The statements of a text of at most `fuel` lines. -/
def statements? : (fuel : Nat) → List Char → Option (List Statement)
  | 0, _ => none
  | fuel + 1, cs =>
    match skipBlanks cs with
    | [] => some []
    | cs =>
      match lineEnd? cs with
      | some rest => statements? fuel rest
      | none => do
        let (statement, rest) ← statement? cs
        let rest ← lineEnd? rest
        let later ← statements? fuel rest
        return statement :: later

/-- The text without a byte order mark in front. -/
def dropMark : List Char → List Char
  | c :: rest => if c = '\uFEFF' then rest else c :: rest
  | [] => []

/-- Reads a TOML text as the table it describes. -/
def read? (text : String) : Option (List (String × Value)) := do
  let cs := dropMark text.toList
  let statements ← statements? (cs.length + 1) cs
  build? statements

end IrExcerpt.Toml
