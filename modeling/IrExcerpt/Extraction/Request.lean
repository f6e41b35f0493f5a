import IrExcerpt.Config.Basic

/-!
# Requests

What one extraction is asked to do. What a request leaves open is settled by
the defaults of the configuration.
-/

namespace IrExcerpt

/-- An extraction that is asked for. -/
structure Request where
  input : Path
  output : Option Path
  functions : List String
  functionPatterns : List String
  linePatterns : List String
  ignorePatterns : List String
  depth : Option Nat
  failOnEmpty : Option Bool
  report : Option Path
deriving DecidableEq, Repr

namespace Request

/-- The request that a job describes. -/
def ofJob (job : Job) : Except ConfigFault Request := do
  let depth ← Depth.ofSetting? job.depth
  return {
    input := Path.ofString job.input
    output := job.output.map Path.ofString
    functions := job.functions
    functionPatterns := job.functionPatterns
    linePatterns := job.linePatterns
    ignorePatterns := job.ignorePatterns
    depth
    failOnEmpty := job.failOnEmpty
    report := job.report.map Path.ofString }

/-- How many calls to follow. -/
def depthWith (r : Request) (d : Defaults) : Except ConfigFault Nat :=
  match r.depth with
  | some depth => .ok depth
  | none => Depth.ofSetting d.depth

/-- Where the excerpt goes. -/
def outputWith (r : Request) (d : Defaults) : Path :=
  r.output.getD (d.outputFor r.input)

/-- Whether an empty selection is a failure. -/
def failOnEmptyWith (r : Request) (d : Defaults) : Bool :=
  r.failOnEmpty.getD d.failOnEmpty

/-- What to select. The ignore patterns of the defaults come first. -/
def criteriaWith (r : Request) (d : Defaults) : Except CriteriaFault Criteria :=
  Criteria.ofTexts r.functions r.functionPatterns r.linePatterns (d.ignorePatterns ++ r.ignorePatterns)

end Request

/-- Figures of an extraction. -/
structure Figures where
  /-- Definitions in the input. -/
  parsed : Nat
  /-- Functions selected directly. -/
  selected : Nat
  /-- Functions added along calls. -/
  expanded : Nat
  /-- Functions called and not defined. -/
  external : Nat
deriving DecidableEq, Repr

/-- What an extraction has done. -/
structure Outcome where
  /-- Functions in the excerpt. -/
  count : Nat
  /-- Where the excerpt is. -/
  output : Path
  figures : Figures
deriving DecidableEq, Repr

end IrExcerpt
