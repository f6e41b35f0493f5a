import IrExcerpt.Depth
import IrExcerpt.Failure
import IrExcerpt.Storage.Path

/-!
# Configurations

A configuration holds what applies to every extraction unless it says
otherwise, and extractions that are run by name. It is valid when no depth is
negative, the name for output files is not blank, and every job has a name of
its own.
-/

namespace IrExcerpt

/-- What applies to every extraction. -/
structure Defaults where
  /-- The name of the output file when no output is given. -/
  outputName : String := "extracted-bitcode.ll"
  /-- How many calls to follow. -/
  depth : Int64 := 0
  /-- Patterns for names to leave out, in front of those of an extraction. -/
  ignorePatterns : List String := []
  /-- Whether an empty selection is a failure. -/
  failOnEmpty : Bool := false
  /-- How many ignored names are listed per pattern. -/
  listLimit : Nat := 10
deriving DecidableEq, Repr

/-- An extraction that a configuration describes. -/
structure Job where
  name : String := ""
  input : String := ""
  output : Option String := none
  functions : List String := []
  functionPatterns : List String := []
  linePatterns : List String := []
  ignorePatterns : List String := []
  depth : Option Int64 := none
  failOnEmpty : Option Bool := none
  report : Option String := none
deriving DecidableEq, Repr

/-- Defaults and jobs. -/
structure Config where
  defaults : Defaults := ⟨"extracted-bitcode.ll", 0, [], false, 10⟩
  jobs : List Job := []
deriving DecidableEq, Repr

/-! ## Depths -/

/-- The depth a text gives. -/
def Depth.ofText (text : String) : Except ConfigFault Nat :=
  match Depth.ofText? text with
  | some depth => .ok depth
  | none => .error (.depthText text)

/-- The depth a setting gives. -/
def Depth.ofSetting (value : Int64) : Except ConfigFault Nat :=
  match Depth.ofInt? value with
  | some depth => .ok depth
  | none => .error (.depthNumber value)

/-- The depth an optional setting gives. -/
def Depth.ofSetting? : Option Int64 → Except ConfigFault (Option Nat)
  | none => .ok none
  | some value => (Depth.ofSetting value).map some

/-- Where the output goes when nothing is said: next to the input. -/
def Defaults.outputFor (d : Defaults) (input : Path) : Path :=
  match input.parent? with
  | some parent => parent.join (Path.ofString d.outputName)
  | none => Path.ofString d.outputName

namespace Config

/-- The configuration when there is none. -/
def default : Config := {}

/-- The first job with a name. -/
def job? (c : Config) (name : String) : Option Job :=
  c.jobs.find? fun job => job.name == name

/-- Checks jobs in order, `seen` being the names of those before. -/
def checkJobs (seen : List String) : List Job → Except ConfigFault Unit
  | [] => .ok ()
  | job :: rest =>
    if job.name.isEmpty then .error .unnamedJob
    else if seen.contains job.name then .error (.duplicateJob job.name)
    else
      match Depth.ofSetting? job.depth with
      | .error fault => .error fault
      | .ok _ => checkJobs (job.name :: seen) rest

/-- Checks a configuration; the first fault counts. -/
def validate (c : Config) : Except ConfigFault Unit :=
  match Depth.ofSetting c.defaults.depth with
  | .error fault => .error fault
  | .ok _ =>
    if Text.allBlank c.defaults.outputName.toList then .error .emptyOutputName
    else checkJobs [] c.jobs

end Config

end IrExcerpt
