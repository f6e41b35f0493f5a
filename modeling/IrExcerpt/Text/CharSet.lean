/-!
# Sets of characters

A set of characters is a list of ranges of code points, in increasing order and
with gaps between them. Every operation goes through `normalize` or keeps the
order by itself, so membership can stop at the first range beyond the
character.
-/

namespace IrExcerpt

/-- Ranges of code points, both ends included, in order and apart. -/
structure CharSet where
  ranges : List (Nat × Nat)
deriving DecidableEq, Repr

namespace CharSet

/-- The last code point. -/
def maxPoint : Nat := 0x10FFFF

/-- No character. -/
def empty : CharSet := ⟨[]⟩

/-- Every character. -/
def all : CharSet := ⟨[(0, maxPoint)]⟩

/-- One character. -/
def single (c : Char) : CharSet := ⟨[(c.toNat, c.toNat)]⟩

/-- Whether a code point lies in one of the ranges. -/
def holds (n : Nat) : List (Nat × Nat) → Bool
  | [] => false
  | (lo, hi) :: rest => if n < lo then false else if n ≤ hi then true else holds n rest

/-- Whether a character is in the set. -/
def contains (s : CharSet) (c : Char) : Bool :=
  holds c.toNat s.ranges

/-- Joins ranges that touch or overlap, given ranges ordered by their starts. -/
def mergeFrom (current : Nat × Nat) : List (Nat × Nat) → List (Nat × Nat)
  | [] => [current]
  | (lo, hi) :: rest =>
    if lo ≤ current.2 + 1 then mergeFrom (current.1, max current.2 hi) rest
    else current :: mergeFrom (lo, hi) rest

/-- The set of the characters in any of the ranges. -/
def normalize (ranges : List (Nat × Nat)) : CharSet :=
  match ranges.mergeSort fun a b => decide (a.1 ≤ b.1) with
  | [] => empty
  | r :: rest => ⟨mergeFrom r rest⟩

/-- The characters of either set. -/
def union (a b : CharSet) : CharSet :=
  normalize (a.ranges ++ b.ranges)

/-- The ranges between the given ones, from code point `next` on. -/
def gaps (next : Nat) : List (Nat × Nat) → List (Nat × Nat)
  | [] => if next ≤ maxPoint then [(next, maxPoint)] else []
  | (lo, hi) :: rest =>
    if next < lo then (next, lo - 1) :: gaps (hi + 1) rest else gaps (hi + 1) rest

/-- The characters that are not in the set. -/
def complement (s : CharSet) : CharSet := ⟨gaps 0 s.ranges⟩

/-- The characters of both sets. -/
def inter (a b : CharSet) : CharSet :=
  complement (union (complement a) (complement b))

/-- The characters of the first set that the second lacks. -/
def diff (a b : CharSet) : CharSet :=
  inter a (complement b)

/-- The characters of exactly one of the sets. -/
def symmDiff (a b : CharSet) : CharSet :=
  diff (union a b) (inter a b)

/-- Whether every character of the set is an ASCII character. -/
def isAscii (s : CharSet) : Bool :=
  s.ranges.all fun (_, hi) => hi < 128

/-- The set together with every class of equals that shares a character with it. -/
def closeUnder (classes : List (List Nat)) (s : CharSet) : CharSet :=
  let touched := classes.filter fun cls => cls.any fun n => holds n s.ranges
  normalize (s.ranges ++ touched.flatMap fun cls => cls.map fun n => (n, n))

end CharSet

end IrExcerpt
