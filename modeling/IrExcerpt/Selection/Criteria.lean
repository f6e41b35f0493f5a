import IrExcerpt.Pattern.Set

/-!
# Criteria

What to select: functions asked for by name, by a pattern for their name, or by
a pattern for one of their lines; and what to leave out, by patterns for names.
An ignore pattern speaks about any name, whether it is defined or not.
-/

namespace IrExcerpt

/-- Names and compiled patterns, each list without repetitions. -/
structure Criteria where
  names : List String
  namePatterns : PatternSet
  linePatterns : PatternSet
  ignorePatterns : PatternSet

/-- Why texts are no criteria. -/
inductive CriteriaFault where
  /-- There is nothing to select by. -/
  | nothingAsked
  /-- A pattern is malformed or too large. -/
  | badPattern (source : String)
deriving DecidableEq, Repr

namespace Criteria

/-- Compiles a list of patterns. -/
def patterns (sources : List String) : Except CriteriaFault PatternSet :=
  (PatternSet.compile sources).mapError .badPattern

/-- Criteria from texts. Name patterns are compiled first, then line patterns,
then ignore patterns; the first that fails is the fault. -/
def ofTexts (names namePatterns linePatterns ignorePatterns : List String) :
    Except CriteriaFault Criteria := do
  if names.isEmpty && namePatterns.isEmpty && linePatterns.isEmpty then
    throw .nothingAsked
  let byName ← patterns namePatterns
  let byLine ← patterns linePatterns
  let ignored ← patterns ignorePatterns
  return ⟨firstOccurrences names, byName, byLine, ignored⟩

/-- Whether `name` is to be left out. -/
def ignores (c : Criteria) (name : String) : Bool :=
  c.ignorePatterns.isMatch name

end Criteria

end IrExcerpt
