import IrExcerpt.Text.Blank

/-!
# Recursion depths

A depth is a number of 64 bits. As text it is written in decimal digits,
possibly behind one plus sign, with blanks around it allowed. The digits are
taken one by one, and a number is refused at the digit that makes it too large.
As a signed number a depth must not be negative.
-/

namespace IrExcerpt.Depth

open IrExcerpt.Text

/-- The largest depth. -/
def largest : UInt64 := 18446744073709551615

/-- A number with one more digit behind it, if 64 bits hold it. A sum that they
do not hold starts again at zero, which makes it smaller than its parts. -/
def appendDigit? (n : UInt64) (c : Char) : Option UInt64 :=
  if largest / 10 < n then none
  else
    let tens := n * 10
    let sum := tens + UInt64.ofNat (c.toNat - '0'.toNat)
    if sum < tens then none else some sum

/-- What follows a plus sign, if there is one. -/
def dropPlus : List Char → List Char
  | '+' :: rest => rest
  | cs => cs

/-- Reads a number of 64 bits: an optional plus sign and digits. -/
def unsigned? (cs : List Char) : Option Nat :=
  let digits := dropPlus cs
  if digits.isEmpty || !digits.all Char.isDigit then none
  else (digits.foldlM appendDigit? 0).map UInt64.toNat

/-- Reads a depth, blanks around it being of no account. -/
def ofText? (text : String) : Option Nat :=
  unsigned? (trim text.toList)

/-- The depth a signed number is. -/
def ofInt? (value : Int64) : Option Nat :=
  if value < 0 then none else some value.toNatClampNeg

end IrExcerpt.Depth
