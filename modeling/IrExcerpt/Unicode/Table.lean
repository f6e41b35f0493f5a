import IrExcerpt.Text.CharSet

/-!
# Tables of the Unicode standard

Sets of code points are written down as text. A set is a sequence of pairs of
hexadecimal numbers: how many code points to pass over, and how many more than
one the range holds. Names are written the way names are compared, in lower
case and without blanks, hyphens and underscores.
-/

namespace IrExcerpt.Unicode

/-- A set of a table: the names it goes by, and its ranges as text. -/
structure Entry where
  names : List String
  ranges : String

/-- The value of a hexadecimal digit. -/
def hexValue? (c : Char) : Option Nat :=
  if c.isDigit then some (c.toNat - 48)
  else if 'a' ≤ c && c ≤ 'f' then some (c.toNat - 87)
  else if 'A' ≤ c && c ≤ 'F' then some (c.toNat - 55)
  else none

/-- The hexadecimal numbers of a text, whatever divides them. -/
def hexNumbers (current : Option Nat) : List Char → List Nat
  | [] => current.toList
  | c :: rest =>
    match hexValue? c with
    | some d => hexNumbers (some (current.getD 0 * 16 + d)) rest
    | none => current.toList ++ hexNumbers none rest

/-- The ranges that pairs of numbers stand for, from code point `next` on. -/
def decodeRanges (next : Nat) : List Nat → List (Nat × Nat)
  | skip :: more :: rest => (next + skip, next + skip + more) :: decodeRanges (next + skip + more + 1) rest
  | _ => []

/-- The set of an entry. -/
def Entry.set (e : Entry) : CharSet :=
  ⟨decodeRanges 0 (hexNumbers none e.ranges.toList)⟩

/-- The set that a table has under a name. -/
def find? (table : List Entry) (name : String) : Option CharSet :=
  (table.find? fun e => e.names.contains name).map Entry.set

/-- The union of the sets that a table has under some names. -/
def unionOf (table : List Entry) (names : List String) : CharSet :=
  CharSet.normalize ((names.filterMap (find? table)).flatMap CharSet.ranges)

end IrExcerpt.Unicode
