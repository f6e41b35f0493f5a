import IrExcerpt.Text.Json
import IrExcerpt.Toml.Quoted

/-!
# Reading JSON

A text is read as the value that it is written for, wherever blanks and line
ends stand between its words. Escapes by number stand for single characters;
other kinds of values than reports are made of are not read.
-/

namespace IrExcerpt.Json

/-- How something is read from the front of a text. What comes behind it is left
over. -/
abbrev Reader (α : Type) := List Char → Option (α × List Char)

/-! ## Words -/

/-- A character that may stand between words. -/
def isBlank (c : Char) : Bool := c = ' ' || c = '\t' || c = '\n' || c = '\r'

/-- What comes behind blanks. -/
def skipBlanks (cs : List Char) : List Char := cs.dropWhile isBlank

/-- The character that a letter behind a backslash stands for. -/
def escaped? (c : Char) : Option Char :=
  if c = '/' then some '/' else Toml.Quoted.escaped? c

/-- Reads a text up to its closing quote. -/
def quoted? : Reader (List Char)
  | '"' :: rest => some ([], rest)
  | '\\' :: 'u' :: a :: b :: c :: d :: rest =>
    (Toml.Quoted.numbered? [a, b, c, d]).bind fun x => Toml.Quoted.more x (quoted? rest)
  | '\\' :: e :: rest => (escaped? e).bind fun x => Toml.Quoted.more x (quoted? rest)
  | c :: rest => if c.toNat < 32 then none else Toml.Quoted.more c (quoted? rest)
  | [] => none

/-- Digits, of which the first one is a zero only if it is the only one. -/
def number? : Reader Nat := fun cs =>
  match cs.takeWhile Char.isDigit with
  | [] => none
  | '0' :: _ :: _ => none
  | digits => some (Nat.ofDigitChars 10 digits 0, cs.dropWhile Char.isDigit)

/-! ## Values -/

/-- Further items up to the closing bracket, at most `fuel` of them. -/
def further? {α : Type} (item : Reader α) (close : Char) : (fuel : Nat) → Reader (List α)
  | 0, _ => none
  | fuel + 1, cs =>
    match skipBlanks cs with
    | [] => none
    | c :: rest =>
      if c = close then some ([], rest)
      else if c = ',' then do
        let (x, rest) ← item rest
        let (xs, rest) ← further? item close fuel rest
        return (x :: xs, rest)
      else none

/-- Items behind the opening bracket, up to the closing one. -/
def items? {α : Type} (item : Reader α) (close : Char) : Reader (List α) := fun cs =>
  match skipBlanks cs with
  | [] => none
  | c :: rest =>
    if c = close then some ([], rest)
    else do
      let (x, rest) ← item (c :: rest)
      let (xs, rest) ← further? item close rest.length rest
      return (x :: xs, rest)

/-- A field of an object: a text, a colon and a value. -/
def field? (value : Reader Json) : Reader (String × Json) := fun cs =>
  match skipBlanks cs with
  | '"' :: rest => do
    let (key, rest) ← quoted? rest
    match skipBlanks rest with
    | ':' :: rest => do
      let (v, rest) ← value rest
      return ((String.ofList key, v), rest)
    | _ => none
  | _ => none

/-- A value that holds less than `room` levels of other values. -/
def value? : (room : Nat) → Reader Json
  | 0, _ => none
  | room + 1, cs =>
    match skipBlanks cs with
    | [] => none
    | c :: rest =>
      if c = '"' then (quoted? rest).map fun (text, rest) => (.string (String.ofList text), rest)
      else if c = '[' then
        (items? (value? room) ']' rest).map fun (items, rest) => (.array items, rest)
      else if c = '\x7b' then
        (items? (field? (value? room)) '\x7d' rest).map fun (fields, rest) => (.object fields, rest)
      else (number? (c :: rest)).map fun (n, rest) => (.number n, rest)

/-- Reads a text as the value that it is written for. -/
def read? (text : String) : Option Json := do
  let (value, rest) ← value? (text.toList.length + 1) text.toList
  if (skipBlanks rest).isEmpty then some value else none

/-! ## Parts of values -/

/-- The value that an object has under a name. -/
def get? (key : String) : Json → Option Json
  | .object fields => fields.lookup key
  | _ => none

/-- The text that a value is. -/
def string? : Json → Option String
  | .string text => some text
  | _ => none

/-- The number that a value is. -/
def nat? : Json → Option Nat
  | .number value => some value
  | _ => none

/-- The items of the list that a value is. -/
def array? : Json → Option (List Json)
  | .array items => some items
  | _ => none

end IrExcerpt.Json
