import IrExcerpt.Pattern.Ast

/-!
# Patterns with their meaning fixed

Flags decide what the parts of a pattern stand for: which characters a class
holds, whether case counts, where a line ends. `Ast.resolve?` walks a pattern
from left to right with the flags in force and puts sets of characters and
assertions in place of what is written. A flag set inside a group is in force
to the end of that group.

Without the flag `u` a class must stay within ASCII, because matching never
divides a character.
-/

namespace IrExcerpt.Pattern

/-- The flags that bear on what is matched. -/
structure Flags where
  ignoreCase : Bool
  multiLine : Bool
  dotAll : Bool
  crlf : Bool
  unicode : Bool
deriving DecidableEq, Repr

/-- The flags a pattern starts with. -/
def Flags.initial : Flags := ⟨false, false, false, false, true⟩

/-- The flags after one change. Verbosity and greed do not bear on what is
matched. -/
def Flags.set (f : Flags) : Flag × Bool → Flags
  | (.ignoreCase, on) => { f with ignoreCase := on }
  | (.multiLine, on) => { f with multiLine := on }
  | (.dotAll, on) => { f with dotAll := on }
  | (.crlf, on) => { f with crlf := on }
  | (.unicode, on) => { f with unicode := on }
  | (.swapGreed, _) => f
  | (.verbose, _) => f

/-- The flags after some changes. -/
def Flags.change (f : Flags) (changes : FlagChanges) : Flags :=
  changes.foldl Flags.set f

/-- How a place relates to the words around it. -/
inductive WordEdge where
  | boundary
  | notBoundary
  | start
  | stop
  | startHalf
  | stopHalf
deriving DecidableEq, Repr

/-- What an assertion asks of a place in the text. -/
inductive Look where
  | textStart
  | textEnd
  | lineStart (crlf : Bool)
  | lineEnd (crlf : Bool)
  | word (edge : WordEdge) (unicode : Bool)
deriving DecidableEq, Repr

/-- A pattern whose flags have been worked in. -/
inductive Expr where
  | empty
  | set (s : CharSet)
  | look (l : Look)
  | repetition (body : Expr) (least : Nat) (most : Option Nat)
  | group (body : Expr)
  | concat (items : List Expr)
  | alternation (branches : List Expr)

/-! ## Classes -/

/-- The ASCII characters of a named class. -/
def NamedClass.set : NamedClass → CharSet
  | .alnum => ⟨[(48, 57), (65, 90), (97, 122)]⟩
  | .alpha => ⟨[(65, 90), (97, 122)]⟩
  | .ascii => ⟨[(0, 127)]⟩
  | .blank => ⟨[(9, 9), (32, 32)]⟩
  | .cntrl => ⟨[(0, 31), (127, 127)]⟩
  | .digit => ⟨[(48, 57)]⟩
  | .graph => ⟨[(33, 126)]⟩
  | .lower => ⟨[(97, 122)]⟩
  | .print => ⟨[(32, 126)]⟩
  | .punct => ⟨[(33, 47), (58, 64), (91, 96), (123, 126)]⟩
  | .space => ⟨[(9, 13), (32, 32)]⟩
  | .upper => ⟨[(65, 90)]⟩
  | .word => ⟨[(48, 57), (65, 90), (95, 95), (97, 122)]⟩
  | .xdigit => ⟨[(48, 57), (65, 70), (97, 102)]⟩

/-- The characters of a letter class. -/
def LetterClass.set (unicode : Bool) : LetterClass → CharSet
  | .digit => if unicode then Unicode.digits else NamedClass.digit.set
  | .space => if unicode then Unicode.blanks else NamedClass.space.set
  | .word => if unicode then Unicode.wordChars else NamedClass.word.set

/-- The letters of ASCII, each with its other case. -/
def asciiCaseClasses : List (List Nat) :=
  (List.range 26).map fun i => [65 + i, 97 + i]

/-- A set closed under case, if case is to be ignored. -/
def Flags.fold (f : Flags) (s : CharSet) : CharSet :=
  if f.ignoreCase then
    if f.unicode then Unicode.caseFold s else s.closeUnder asciiCaseClasses
  else s

/-- A set, if it may be used under the flags: without `u` it must be ASCII. -/
def Flags.allow (f : Flags) (s : CharSet) : Option CharSet :=
  if f.unicode || s.isAscii then some s else none

/-- The complement of a set, where asked for. -/
def negateIf (negated : Bool) (s : CharSet) : CharSet :=
  if negated then s.complement else s

/-- A character inside a class. -/
def Flags.classChar (f : Flags) (l : Literal) : Option Nat :=
  if f.unicode || l.char.toNat < 128 then some l.char.toNat else none

/-- A letter class under the flags. -/
def Flags.letterSet (f : Flags) (cls : LetterClass) (negated : Bool) : Option CharSet :=
  f.allow (negateIf negated (cls.set f.unicode))

/-- A property under the flags; properties need `u`. -/
def Flags.propertySet (f : Flags) (query : Unicode.Query) (negated : Bool) : Option CharSet :=
  if f.unicode then (Unicode.lookup? query).map fun s => negateIf negated (f.fold s) else none

/-- A set operation. -/
def SetOp.apply : SetOp → CharSet → CharSet → CharSet
  | .intersection => CharSet.inter
  | .difference => CharSet.diff
  | .symmetricDifference => CharSet.symmDiff

mutual

/-- The characters of a class under the flags. Case is worked in before a class
is negated. -/
def ClassAst.resolve? (f : Flags) : ClassAst → Option CharSet
  | .literal l => (f.classChar l).map fun n => ⟨[(n, n)]⟩
  | .range lo hi => do
    let lo ← f.classChar lo
    let hi ← f.classChar hi
    return ⟨[(lo, hi)]⟩
  | .letter cls negated => f.letterSet cls negated
  | .named cls negated => f.allow (negateIf negated (f.fold cls.set))
  | .property query negated => f.propertySet query negated
  | .bracketed negated body => do
    let s ← body.resolve? f
    f.allow (negateIf negated (f.fold s))
  | .union items => ClassAst.resolveAll? f items
  | .op kind lhs rhs => do
    let a ← lhs.resolve? f
    let b ← rhs.resolve? f
    return kind.apply (f.fold a) (f.fold b)

/-- The characters of some classes taken together. -/
def ClassAst.resolveAll? (f : Flags) : List ClassAst → Option CharSet
  | [] => some CharSet.empty
  | item :: items => do
    let s ← item.resolve? f
    let rest ← ClassAst.resolveAll? f items
    return CharSet.union s rest

end

/-! ## Patterns -/

/-- A character under the flags. A byte that is no character of its own cannot
be matched. -/
def Flags.literalSet (f : Flags) (l : Literal) : Option CharSet :=
  if !f.unicode && l.isByte && 128 ≤ l.char.toNat then none
  else if !f.unicode && 128 ≤ l.char.toNat then some (CharSet.single l.char)
  else some (f.fold (CharSet.single l.char))

/-- The characters a dot stands for. -/
def Flags.dotSet (f : Flags) : Option CharSet :=
  if !f.unicode then none
  else if f.dotAll then some CharSet.all
  else if f.crlf then some (CharSet.complement ⟨[(10, 10), (13, 13)]⟩)
  else some (CharSet.complement ⟨[(10, 10)]⟩)

/-- What an assertion asks under the flags. -/
def Flags.look (f : Flags) : Assertion → Look
  | .lineStart => if f.multiLine then .lineStart f.crlf else .textStart
  | .lineEnd => if f.multiLine then .lineEnd f.crlf else .textEnd
  | .textStart => .textStart
  | .textEnd => .textEnd
  | .wordBoundary => .word .boundary f.unicode
  | .notWordBoundary => .word .notBoundary f.unicode
  | .wordStart => .word .start f.unicode
  | .wordEnd => .word .stop f.unicode
  | .wordStartHalf => .word .startHalf f.unicode
  | .wordEndHalf => .word .stopHalf f.unicode

mutual

/-- The pattern with its flags worked in, and the flags behind it. -/
def Ast.resolve? (f : Flags) : Ast → Option (Expr × Flags)
  | .empty => some (.empty, f)
  | .flags changes => some (.empty, f.change changes)
  | .literal l => (f.literalSet l).map fun s => (.set s, f)
  | .dot => f.dotSet.map fun s => (.set s, f)
  | .assertion a => some (.look (f.look a), f)
  | .letter cls negated => (f.letterSet cls negated).map fun s => (.set s, f)
  | .property query negated => (f.propertySet query negated).map fun s => (.set s, f)
  | .bracketed negated body => do
    let s ← body.resolve? f
    let s ← f.allow (negateIf negated (f.fold s))
    return (.set s, f)
  | .repetition body least most => do
    let (e, f) ← body.resolve? f
    return (.repetition e least most, f)
  | .group .capturing body => do
    let (e, _) ← body.resolve? f
    return (.group e, f)
  | .group (.plain changes) body => do
    let (e, _) ← body.resolve? (f.change changes)
    return (e, f)
  | .concat items => do
    let (es, f) ← Ast.resolveAll? f items
    return (.concat es, f)
  | .alternation branches => do
    let (es, f) ← Ast.resolveAll? f branches
    return (.alternation es, f)

/-- Patterns one after the other, the flags going from each to the next. -/
def Ast.resolveAll? (f : Flags) : List Ast → Option (List Expr × Flags)
  | [] => some ([], f)
  | item :: items => do
    let (e, f) ← item.resolve? f
    let (es, f) ← Ast.resolveAll? f items
    return (e :: es, f)

end

end IrExcerpt.Pattern
