/-!
# Blank characters

White space in the sense of the Unicode property White_Space, and the trimming
that goes with it. One predicate serves the whole library: keywords of a
document end at a blank, gaps in operands are blank, and depths and file names
are trimmed of blanks.
-/

namespace IrExcerpt.Text

/-- The characters that carry the Unicode property White_Space. -/
def isBlank (c : Char) : Bool :=
  let n := c.toNat
  (9 ≤ n && n ≤ 13) || n == 0x20 || n == 0x85 || n == 0xA0 || n == 0x1680
    || (0x2000 ≤ n && n ≤ 0x200A) || n == 0x2028 || n == 0x2029 || n == 0x202F
    || n == 0x205F || n == 0x3000

/-- Everything from the first character that is not blank. -/
def trimStart (cs : List Char) : List Char :=
  cs.dropWhile isBlank

/-- Everything up to the last character that is not blank. -/
def trimEnd (cs : List Char) : List Char :=
  (cs.reverse.dropWhile isBlank).reverse

/-- Blanks taken off both ends. -/
def trim (cs : List Char) : List Char :=
  trimEnd (trimStart cs)

/-- A text that holds blanks only. -/
def allBlank (cs : List Char) : Bool :=
  cs.all isBlank

theorem trimStart_length_le (cs : List Char) : (trimStart cs).length ≤ cs.length :=
  (List.dropWhile_sublist isBlank).length_le

end IrExcerpt.Text
