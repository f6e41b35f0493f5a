import IrExcerpt.Toml.Quoted
import IrExcerpt.Toml.Value

/-!
# Writing TOML

A text starts with the pairs that belong to no table and goes on with one
section per table, divided by empty lines. A list of two or more items has each
of them on a line of its own.
-/

namespace IrExcerpt.Toml

/-- A table of a text: its name, whether it is one of a list of tables with
that name, and its pairs. -/
structure Section where
  name : String
  listed : Bool
  pairs : List (String × Value)

mutual

/-- The text of a value. -/
def Value.text : Value → String
  | .string text => String.ofList (Quoted.write text.toList)
  | .integer value => toString value.toInt
  | .float literal => literal
  | .boolean true => "true"
  | .boolean false => "false"
  | .dateTime literal => literal
  | .array [] => "[]"
  | .array [item] => "[" ++ item.text ++ "]"
  | .array items => "[\n" ++ itemLines items ++ "]"
  | .table [] => "\x7b\x7d"
  | .table ((key, value) :: fields) =>
    "\x7b " ++ key ++ " = " ++ value.text ++ furtherFields fields ++ " \x7d"

/-- Items on lines of their own. -/
def itemLines : List Value → String
  | [] => ""
  | item :: items => "    " ++ item.text ++ ",\n" ++ itemLines items

/-- Further fields of a table in braces. -/
def furtherFields : List (String × Value) → String
  | [] => ""
  | (key, value) :: fields => ", " ++ key ++ " = " ++ value.text ++ furtherFields fields

end

/-- A line with a key and its value. -/
def pairLine (pair : String × Value) : String :=
  pair.1 ++ " = " ++ pair.2.text ++ "\n"

/-- The header of a section. -/
def Section.header (s : Section) : String :=
  if s.listed then "[[" ++ s.name ++ "]]\n" else "[" ++ s.name ++ "]\n"

/-- The text of a section. -/
def Section.text (s : Section) : String :=
  s.header ++ String.join (s.pairs.map pairLine)

/-- The text of some pairs and the sections behind them. -/
def write (pairs : List (String × Value)) (sections : List Section) : String :=
  let front := if pairs.isEmpty then [] else [String.join (pairs.map pairLine)]
  String.intercalate "\n" (front ++ sections.map Section.text)

end IrExcerpt.Toml
