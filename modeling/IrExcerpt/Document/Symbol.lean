import IrExcerpt.Text.Blank

/-!
# Symbols and operands

A symbol is a bare name made of letters, digits and `-`, `$`, `.`, `_`, or any
text in double quotes in which a backslash takes the next character with it.
An operand is a sigil, a symbol, an optional gap of blanks and an opening
parenthesis: `@main(`, `%value(`, `@"a b" (`.

Every step here reads a symbol from the front of the text and hands back what
is left, and what is left is shorter. That is the whole termination argument of
the scanners built on top.
-/

namespace IrExcerpt.Document

open IrExcerpt.Text

/-- The characters a bare name is made of. -/
def isSymbolChar (c : Char) : Bool :=
  c.isAlphanum || c == '-' || c == '$' || c == '.' || c == '_'

/-- Reads a quoted name up to its closing quote: the name and what follows the
quote. A backslash keeps the next character, whatever it is but a line feed. -/
def quoted? : List Char → Option (List Char × List Char)
  | [] => none
  | '"' :: rest => some ([], rest)
  | '\\' :: c :: rest =>
    if c = '\n' then none
    else (quoted? rest).map fun (name, tail) => ('\\' :: c :: name, tail)
  | '\\' :: [] => none
  | c :: rest => (quoted? rest).map fun (name, tail) => (c :: name, tail)

/-- Reads a symbol: its name without quotes, and what follows it. -/
def symbol? : List Char → Option (List Char × List Char)
  | '"' :: rest => quoted? rest
  | cs =>
    let name := cs.takeWhile isSymbolChar
    if name.isEmpty then none else some (name, cs.dropWhile isSymbolChar)

/-- What stands in front of a parenthesis: a name, whether blanks stand between
the name and the parenthesis, and the text after the parenthesis. -/
structure Operand where
  name : List Char
  spaced : Bool
  rest : List Char
deriving DecidableEq, Repr

/-- Reads a symbol, its gap and the parenthesis after it. -/
def operand? (cs : List Char) : Option Operand :=
  match symbol? cs with
  | none => none
  | some (name, tail) =>
    match trimStart tail with
    | '(' :: rest => some ⟨name, (trimStart tail).length < tail.length, rest⟩
    | _ => none

/-- The leftmost operand whose sigil is accepted, with its sigil. -/
def findOperand? (sigil : Char → Bool) : List Char → Option (Char × Operand)
  | [] => none
  | c :: rest =>
    match if sigil c then operand? rest else none with
    | some op => some (c, op)
    | none => findOperand? sigil rest

/-- The name a header line gives its function, and the text behind the opening
parenthesis. The leftmost `@symbol(` decides; an empty name is no name. -/
def headerSymbol? (line : List Char) : Option (List Char × List Char) :=
  match findOperand? (· == '@') line with
  | some (_, op) => if op.name.isEmpty then none else some (op.name, op.rest)
  | none => none

/-! ## What is left is shorter -/

theorem quoted?_length {cs name tail : List Char} (h : quoted? cs = some (name, tail)) :
    tail.length < cs.length := by
  fun_induction quoted? cs generalizing name tail with
  | case1 => simp at h
  | case2 rest => simp_all
  | case3 rest => simp at h
  | case4 c rest hc ih =>
    obtain ⟨⟨n, t⟩, hq, heq⟩ := Option.map_eq_some_iff.1 h
    have := ih hq
    simp_all
    omega
  | case5 => simp at h
  | case6 c rest _ _ _ ih =>
    obtain ⟨⟨n, t⟩, hq, heq⟩ := Option.map_eq_some_iff.1 h
    have := ih hq
    simp_all
    omega

theorem symbol?_length {cs name tail : List Char} (h : symbol? cs = some (name, tail)) :
    tail.length ≤ cs.length := by
  unfold symbol? at h
  split at h
  · have := quoted?_length h
    simp
    omega
  · simp only at h
    split at h
    · simp at h
    · simp at h
      exact h.2 ▸ (List.dropWhile_sublist _).length_le

theorem operand?_length {cs : List Char} {op : Operand} (h : operand? cs = some op) :
    op.rest.length < cs.length := by
  unfold operand? at h
  split at h
  · simp at h
  · next name tail hs =>
    split at h
    · next rest ht =>
      have h1 := symbol?_length hs
      have h2 := trimStart_length_le tail
      rw [ht] at h2
      simp at h h2
      rw [← h]
      simp
      omega
    · simp at h

theorem findOperand?_length {sigil : Char → Bool} {cs : List Char} {c : Char} {op : Operand}
    (h : findOperand? sigil cs = some (c, op)) : op.rest.length < cs.length := by
  induction cs with
  | nil => simp [findOperand?] at h
  | cons x rest ih =>
    unfold findOperand? at h
    split at h
    · next op' hop =>
      split at hop
      · have := operand?_length hop
        simp at h
        simp [← h.2]
        omega
      · simp at hop
    · have := ih h
      simp
      omega

end IrExcerpt.Document
