import IrExcerpt.Unicode.Lookup

/-!
# The grammar of patterns

A pattern as it is written: what is grouped, repeated and listed in brackets,
before flags have given any of it a meaning. Bracketed classes are a language
of their own, with nesting, set operations and named classes.
-/

namespace IrExcerpt.Pattern

/-- A character of a pattern. One written as `\x` and two digits can stand for
a byte. -/
structure Literal where
  char : Char
  isByte : Bool
deriving DecidableEq, Repr

/-- The classes that a letter behind a backslash names. -/
inductive LetterClass where
  | digit
  | space
  | word
deriving DecidableEq, Repr

/-- The ASCII classes with names in brackets and colons. -/
inductive NamedClass where
  | alnum
  | alpha
  | ascii
  | blank
  | cntrl
  | digit
  | graph
  | lower
  | print
  | punct
  | space
  | upper
  | word
  | xdigit
deriving DecidableEq, Repr

/-- The operations on classes. -/
inductive SetOp where
  | intersection
  | difference
  | symmetricDifference
deriving DecidableEq, Repr

/-- What can stand inside a bracketed class. -/
inductive ClassAst where
  | literal (c : Literal)
  | range (lo hi : Literal)
  | letter (cls : LetterClass) (negated : Bool)
  | named (cls : NamedClass) (negated : Bool)
  | property (query : Unicode.Query) (negated : Bool)
  | bracketed (negated : Bool) (body : ClassAst)
  | union (items : List ClassAst)
  | op (kind : SetOp) (lhs rhs : ClassAst)

/-- The assertions, which match between characters. -/
inductive Assertion where
  | lineStart
  | lineEnd
  | textStart
  | textEnd
  | wordBoundary
  | notWordBoundary
  | wordStart
  | wordEnd
  | wordStartHalf
  | wordEndHalf
deriving DecidableEq, Repr

/-- The flags of a pattern. -/
inductive Flag where
  /-- `i` -/
  | ignoreCase
  /-- `m` -/
  | multiLine
  /-- `s` -/
  | dotAll
  /-- `U` -/
  | swapGreed
  /-- `u` -/
  | unicode
  /-- `R` -/
  | crlf
  /-- `x` -/
  | verbose
deriving DecidableEq, Repr

/-- Flags to be switched on or off, in the order they are written. -/
abbrev FlagChanges := List (Flag × Bool)

/-- The ways to group. -/
inductive GroupKind where
  | capturing
  | plain (changes : FlagChanges)
deriving DecidableEq, Repr

/-- A pattern as it is written. -/
inductive Ast where
  | empty
  /-- Flags for the rest of the group. -/
  | flags (changes : FlagChanges)
  | literal (c : Literal)
  | dot
  | assertion (a : Assertion)
  | letter (cls : LetterClass) (negated : Bool)
  | property (query : Unicode.Query) (negated : Bool)
  | bracketed (negated : Bool) (body : ClassAst)
  | repetition (body : Ast) (least : Nat) (most : Option Nat)
  | group (kind : GroupKind) (body : Ast)
  | concat (items : List Ast)
  | alternation (branches : List Ast)

/-- A sequence of parts, when there are at least two of them. -/
def Ast.ofItems : List Ast → Ast
  | [] => .empty
  | [a] => a
  | items => .concat items

/-- A choice between branches, when there are at least two of them. -/
def Ast.ofBranches : List Ast → Ast
  | [a] => a
  | branches => .alternation branches

/-- The parts of a class taken together. -/
def ClassAst.ofItems : List ClassAst → ClassAst
  | [a] => a
  | items => .union items

/-! ## Nesting -/

mutual

/-- How deeply a class nests. -/
def ClassAst.nesting : ClassAst → Nat
  | .bracketed _ body => body.nesting + 1
  | .union [] => 0
  | .union (item :: items) => max item.nesting (ClassAst.nestingAll items) + 1
  | .op _ lhs rhs => max lhs.nesting rhs.nesting + 1
  | _ => 0

/-- How deeply the deepest of some classes nests. -/
def ClassAst.nestingAll : List ClassAst → Nat
  | [] => 0
  | item :: items => max item.nesting (ClassAst.nestingAll items)

end

mutual

/-- How deeply a pattern nests: groups, repetitions, classes, sequences and
choices count one each. -/
def Ast.nesting : Ast → Nat
  | .bracketed _ body => body.nesting + 1
  | .repetition body _ _ => body.nesting + 1
  | .group _ body => body.nesting + 1
  | .concat items => Ast.nestingAll items + 1
  | .alternation branches => Ast.nestingAll branches + 1
  | _ => 0

/-- How deeply the deepest of some patterns nests. -/
def Ast.nestingAll : List Ast → Nat
  | [] => 0
  | item :: items => max item.nesting (Ast.nestingAll items)

end

/-- The nesting that is still accepted. -/
def nestLimit : Nat := 250

end IrExcerpt.Pattern
