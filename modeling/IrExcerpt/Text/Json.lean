/-!
# JSON

Values of the kinds that reports are made of, and their text: one item per
line, two blanks of indentation per level, empty lists and objects closed at
once.
-/

namespace IrExcerpt

/-- A JSON value without fractions, truth values and null. -/
inductive Json where
  | string (text : String)
  | number (value : Nat)
  | array (items : List Json)
  | object (fields : List (String × Json))

namespace Json

/-- A digit below sixteen, in lower case. -/
def hexDigit (n : Nat) : Char :=
  if n < 10 then Char.ofNat (48 + n) else Char.ofNat (87 + n)

/-- A character inside quotes. Control characters have a short form or are
written by number; everything from the blank on stands for itself, except the
quote and the backslash. -/
def escape (c : Char) : List Char :=
  if c = '"' then ['\\', '"']
  else if c = '\\' then ['\\', '\\']
  else if c = '\n' then ['\\', 'n']
  else if c = '\r' then ['\\', 'r']
  else if c = '\t' then ['\\', 't']
  else if c = '\x08' then ['\\', 'b']
  else if c = '\x0c' then ['\\', 'f']
  else if c.toNat < 32 then ['\\', 'u', '0', '0', hexDigit (c.toNat / 16), hexDigit (c.toNat % 16)]
  else [c]

/-- A text in quotes. -/
def quote (text : String) : String :=
  "\"" ++ String.ofList (text.toList.flatMap escape) ++ "\""

/-- A new line at an indentation level. -/
def newline (level : Nat) : String :=
  "\n" ++ String.ofList (List.replicate (2 * level) ' ')

mutual

/-- The text of a value at an indentation level. -/
def textAt (level : Nat) : Json → String
  | .string text => quote text
  | .number value => toString value
  | .array [] => "[]"
  | .array (item :: items) =>
    "[" ++ newline (level + 1) ++ item.textAt (level + 1) ++ itemsText (level + 1) items ++ newline level ++ "]"
  | .object [] => "\x7b\x7d"
  | .object ((key, value) :: fields) =>
    "\x7b" ++ newline (level + 1) ++ quote key ++ ": " ++ value.textAt (level + 1)
      ++ fieldsText (level + 1) fields ++ newline level ++ "\x7d"

/-- Further items of a list. -/
def itemsText (level : Nat) : List Json → String
  | [] => ""
  | item :: items => "," ++ newline level ++ item.textAt level ++ itemsText level items

/-- Further fields of an object. -/
def fieldsText (level : Nat) : List (String × Json) → String
  | [] => ""
  | (key, value) :: fields =>
    "," ++ newline level ++ quote key ++ ": " ++ value.textAt level ++ fieldsText level fields

end

/-- The text of a value. -/
def text (value : Json) : String := value.textAt 0

end Json

end IrExcerpt
