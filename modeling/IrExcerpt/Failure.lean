import IrExcerpt.Document.Parse
import IrExcerpt.Selection.Criteria
import IrExcerpt.Storage.IoError

/-!
# Failures

Everything that can stop an extraction, by cause. A failure has a kind, which
is a stable word, and a message. When it ends an activity, the activity is told
first and the failure after it.
-/

namespace IrExcerpt

/-- Settings that cannot be used. -/
inductive ConfigFault where
  | criteria (fault : CriteriaFault)
  /-- A depth given as text is no number below 2 ^ 64. -/
  | depthText (text : String)
  /-- A depth is negative. -/
  | depthNumber (value : Int64)
  | emptyOutputName
  | unnamedJob
  | duplicateJob (name : String)
  /-- A configuration text is malformed or holds values of a wrong kind. -/
  | badToml
  /-- A log limit is too large for a configuration text. -/
  | limitTooLarge
  | noSuchJob (name : String)
  | noJobs
  /-- A new configuration would replace something. -/
  | alreadyExists (path : String)
  /-- There is no configuration at the given path. -/
  | missingFile (path : String)
deriving DecidableEq, Repr

/-- The wording of a fault in the criteria. -/
def CriteriaFault.message : CriteriaFault → String
  | .nothingAsked =>
    "at least one function to extract by its name, pattern or a line pattern should be specified"
  | .badPattern source => "pattern '" ++ source ++ "' is invalid"

/-- The wording of a fault in the settings. -/
def ConfigFault.message : ConfigFault → String
  | .criteria fault => fault.message
  | .depthText text => "`recursion depth` must be a non-negative integer, got '" ++ text ++ "'"
  | .depthNumber value => "`recursion depth` must be a non-negative integer, got " ++ toString value.toInt
  | .emptyOutputName => "`defaults.output_file_name` must not be empty"
  | .unnamedJob => "every job needs a `name`"
  | .duplicateJob name => "duplicate job name '" ++ name ++ "'"
  | .badToml => "TOML parse error"
  | .limitTooLarge => "out-of-range value for u64 type"
  | .noSuchJob name => "no job named '" ++ name ++ "' in configuration"
  | .noJobs => "configuration defines no jobs"
  | .alreadyExists path => path ++ " already exists"
  | .missingFile path => "configuration file " ++ path ++ " does not exist"

/-- Why nothing was extracted. -/
inductive Failure where
  | config (fault : ConfigFault)
  | parse (error : ParseError)
  /-- Nothing was selected, and that is not allowed. -/
  | emptySelection
  | io (error : IoError)
  /-- A path that is no text was to stand in a report. -/
  | pathNotText
deriving DecidableEq, Repr

namespace Failure

/-- The stable word for a failure. -/
def kind : Failure → String
  | .config _ => "config"
  | .parse _ => "parse"
  | .emptySelection => "empty_selection"
  | .io _ => "io"
  | .pathNotText => "serialization"

/-- What a failure was caused by, when another part of the system reported it. -/
def cause? : Failure → Option String
  | .io error => some error.message
  | .pathNotText => some "path contains invalid UTF-8 characters"
  | _ => none

/-- The wording of a failure. -/
def message : Failure → String
  | .config fault => "Configuration error: " ++ fault.message
  | .parse error => "Parse error at line " ++ toString error.line ++ ": " ++ error.fault.message
  | .emptySelection => "No functions matched the selection criteria"
  | .io error => "IO error: " ++ error.message
  | .pathNotText => "Serialization error: path contains invalid UTF-8 characters"

/-- The wording of a failure with its cause behind it. -/
def fullMessage (f : Failure) : String :=
  match f.cause? with
  | some cause => f.message ++ ": " ++ cause
  | none => f.message

end Failure

/-- What was being done when a failure came. -/
inductive Activity where
  | loadingConfiguration
  | writing (path : String)
  | runningJob (name : String)
deriving DecidableEq, Repr

/-- The wording of an activity that failed. -/
def Activity.message : Activity → String
  | .loadingConfiguration => "Failed to load configuration"
  | .writing path => "Failed to write " ++ path
  | .runningJob name => "job '" ++ name ++ "' failed"

/-- A failure and the activity it ended, if one is to be told. -/
structure Abort where
  activity : Option Activity
  failure : Failure
deriving DecidableEq, Repr

namespace Abort

/-- A failure with no activity to tell. -/
def of (failure : Failure) : Abort := ⟨none, failure⟩

/-- A failure that ended an activity. -/
def during (activity : Activity) (failure : Failure) : Abort := ⟨some activity, failure⟩

/-- The wording: the activity, the failure and its cause. -/
def message (a : Abort) : String :=
  match a.activity with
  | some activity => activity.message ++ ": " ++ a.failure.fullMessage
  | none => a.failure.fullMessage

end Abort

end IrExcerpt
