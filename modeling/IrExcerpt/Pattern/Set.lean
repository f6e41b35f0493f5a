import IrExcerpt.Pattern.Match
import IrExcerpt.Pattern.Parser
import IrExcerpt.Pattern.Size

/-!
# Sets of patterns

Patterns are given as texts and compiled in order. A text that comes again is
left out, so a set holds each of its sources once, where it came first.
-/

namespace IrExcerpt

/-- A compiled pattern together with the text it was given as. -/
structure Pattern where
  source : String
  expr : Pattern.Expr

namespace Pattern

/-- Compiles a pattern. -/
def compile? (source : String) : Option Pattern := do
  let ast ← parse? source.toList
  let (expr, _) ← ast.resolve? Flags.initial
  if expr.fits then return ⟨source, expr⟩ else none

/-- Whether the pattern matches anywhere in a text. -/
def isMatch (p : Pattern) (text : String) : Bool :=
  p.expr.matchesIn text.toList

end Pattern

/-- Texts without those that came before. -/
def firstOccurrences : List String → List String
  | [] => []
  | a :: rest => a :: (firstOccurrences rest).filter (· != a)

/-- Patterns in order, no source twice. -/
structure PatternSet where
  patterns : List Pattern

namespace PatternSet

/-- No patterns. -/
def empty : PatternSet := ⟨[]⟩

/-- Compiles patterns in order; the first one that is none is the error. -/
def compileEach : List String → Except String (List Pattern)
  | [] => .ok []
  | source :: rest =>
    match Pattern.compile? source with
    | none => .error source
    | some p =>
      match compileEach rest with
      | .error bad => .error bad
      | .ok ps => .ok (p :: ps)

/-- Compiles the different patterns of a list. -/
def compile (sources : List String) : Except String PatternSet :=
  (compileEach (firstOccurrences sources)).map PatternSet.mk

/-- Whether any of the patterns matches anywhere in a text. -/
def isMatch (s : PatternSet) (text : String) : Bool :=
  s.patterns.any fun p => p.isMatch text

end PatternSet

end IrExcerpt
