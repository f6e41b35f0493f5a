import IrExcerpt.Unicode.Age
import IrExcerpt.Unicode.CaseFolding
import IrExcerpt.Unicode.Category
import IrExcerpt.Unicode.Property
import IrExcerpt.Unicode.Script
import IrExcerpt.Unicode.ScriptExtension
import IrExcerpt.Unicode.Segmentation

/-!
# Looking up character properties

A property is asked for by one name, which may be that of a binary property, a
general category or a script, or by a property's name and a value. Names are
compared loosely: case, blanks, hyphens and underscores do not count, and a
leading `is` is passed over.
-/

namespace IrExcerpt.Unicode

/-- A request for a set of characters. -/
inductive Query where
  | named (name : String)
  | valued (property value : String)
deriving DecidableEq, Repr

/-- A name in the form in which names are compared. The short name of the
property ISO_Comment starts with `is` and keeps it. -/
def looseName (name : String) : String :=
  let cs := name.toList
  let isPrefixed := match cs with
    | a :: b :: _ => (a == 'i' || a == 'I') && (b == 's' || b == 'S')
    | _ => false
  let kept := (if isPrefixed then cs.drop 2 else cs).filter fun c =>
    c.toNat < 128 && c != ' ' && c != '_' && c != '-'
  let folded := kept.map Char.toLower
  if isPrefixed && folded == ['c'] then "isc" else String.ofList folded

/-- The categories that a union of categories is made of. -/
def categoryGroup? : String → Option (List String)
  | "l" | "letter" => some ["lu", "ll", "lt", "lm", "lo"]
  | "lc" | "casedletter" => some ["lu", "ll", "lt"]
  | "m" | "mark" | "combiningmark" => some ["mn", "mc", "me"]
  | "n" | "number" => some ["nd", "nl", "no"]
  | "p" | "punctuation" | "punct" => some ["pc", "pd", "ps", "pe", "pi", "pf", "po"]
  | "s" | "symbol" => some ["sm", "sc", "sk", "so"]
  | "z" | "separator" => some ["zs", "zl", "zp"]
  | _ => none

/-- All code points with a category of their own, surrogates included. -/
def assigned : CharSet :=
  CharSet.normalize ((0xD800, 0xDFFF) :: categories.flatMap fun e => e.set.ranges)

/-- The set of a general category, or of one of the three sets that are asked
for like one. -/
def category? (name : String) : Option CharSet :=
  match name with
  | "any" => some CharSet.all
  | "ascii" => some ⟨[(0, 127)]⟩
  | "assigned" => some assigned
  | "cn" | "unassigned" => some assigned.complement
  | "c" | "other" => some (CharSet.union assigned.complement (unionOf categories ["cc", "cf", "co"]))
  | name =>
    match categoryGroup? name with
    | some parts => some (unionOf categories parts)
    | none => find? categories name

/-- The code points assigned up to the version of the given name. -/
def age? (name : String) : Option CharSet :=
  match ages.findIdx? fun e => e.names.contains name with
  | some i => some (CharSet.normalize ((ages.take (i + 1)).flatMap fun e => e.set.ranges))
  | none => none

/-- The set a request asks for. Three short names belong to categories although
properties have them too. -/
def lookup? : Query → Option CharSet
  | .named name =>
    let name := looseName name
    let property := if ["cf", "sc", "lc"].contains name then none else find? properties name
    property <|> category? name <|> find? scripts name
  | .valued property value =>
    let value := looseName value
    match looseName property with
    | "generalcategory" | "gc" => category? value
    | "script" | "sc" => find? scripts value
    | "scriptextensions" | "scx" => find? scriptExtensions value <|> find? scripts value
    | "age" => age? value
    | "graphemeclusterbreak" | "gcb" => find? graphemeBreaks value
    | "wordbreak" | "wb" => find? wordBreaks value
    | "sentencebreak" | "sb" => find? sentenceBreaks value
    | _ => none

/-! ## Sets with a use of their own -/

/-- Decimal digits. -/
def digits : CharSet := unionOf categories ["nd"]

/-- White space. -/
def blanks : CharSet := unionOf properties ["whitespace"]

/-- The characters of words: letters, marks, decimal digits, connecting
punctuation and the two joiners. -/
def wordChars : CharSet :=
  CharSet.union (unionOf properties ["alphabetic", "joincontrol"])
    (unionOf categories ["mn", "mc", "me", "nd", "pc"])

/-- Letters in the sense of the property Alphabetic. -/
def letters : CharSet := unionOf properties ["alphabetic"]

/-- Letters and numbers of any kind. -/
def lettersAndNumbers : CharSet :=
  CharSet.union letters (unionOf categories ["nd", "nl", "no"])

/-- The lists of hexadecimal numbers in a text, each ended by a comma. -/
def hexClasses (cls : List Nat) (current : Option Nat) : List Char → List (List Nat)
  | [] => []
  | c :: rest =>
    match hexValue? c with
    | some d => hexClasses cls (some (current.getD 0 * 16 + d)) rest
    | none =>
      let cls := cls ++ current.toList
      if c = ',' then cls :: hexClasses [] none rest else hexClasses cls none rest

/-- The classes of characters that simple case folding identifies. -/
def caseClassList : List (List Nat) :=
  hexClasses [] none caseClasses.toList

/-- The set together with everything equal to one of its characters up to case. -/
def caseFold (s : CharSet) : CharSet :=
  s.closeUnder caseClassList

end IrExcerpt.Unicode
