import IrExcerpt.CommandLine.Help
import IrExcerpt.CommandLine.Invocation
import IrExcerpt.Config.File

/-!
# Running commands

A command is carried out with the configuration that is to be used, which is
loaded first. What it has to say is returned as text; nothing is printed here.
-/

namespace IrExcerpt.CommandLine

variable [Monad m] [FileAccess m]

/-- How the program ends. -/
structure Ending where
  exitCode : Nat
  /-- What is printed. -/
  output : String
  /-- What is complained about. -/
  complaint : Option String
  /-- What happened on the way. -/
  events : List Event

/-- What is printed about an extraction. -/
def outcomeText (o : Outcome) : String :=
  "Extracted " ++ toString o.count ++ " function(s) into " ++ o.output.display ++ "\n"

/-- What is printed about an extraction when more is asked for. -/
def figuresText (f : Figures) : String :=
  "  parsed " ++ toString f.parsed ++ " | selected " ++ toString f.selected
    ++ " | added by expansion " ++ toString f.expanded ++ " | external callees " ++ toString f.external ++ "\n"

/-- The depth a text gives, if there is one. -/
def depthOf : Option String → Except ConfigFault (Option Nat)
  | none => .ok none
  | some text => (Depth.ofText text).map some

/-- Carries out a command in a session. -/
def perform (verbose : Bool) : Command → Task m Abort String
  | .init path => do
    match ← Session.ask (Config.init (Path.ofString path)) with
    | .error abort => throw abort
    | .ok () => return ""
  | .extract input output functions functionPatterns linePatterns ignorePatterns depth failOnEmpty report => do
    match depthOf depth with
    | .error fault => throw (.of (.config fault))
    | .ok depth =>
      let request : Request := {
        input := Path.ofString input
        output := output.map Path.ofString
        functions, functionPatterns, linePatterns, ignorePatterns, depth
        failOnEmpty := if failOnEmpty then some true else none
        report := report.map Path.ofString }
      let o ← (Session.extract request).adapt Abort.of
      return outcomeText o ++ (if verbose then figuresText o.figures else "")
  | .run job => do
    return String.join ((← Session.runJobs job).map outcomeText)
  | .graph input functions depth =>
    (Session.graph (Path.ofString input) functions depth).adapt Abort.of

/-- What is said about a command that was not carried out. -/
def complaint (a : Abort) : String :=
  "error[" ++ a.failure.kind ++ "]: " ++ a.message

/-- Carries out an invocation. -/
def Invocation.run (i : Invocation) : m Ending := do
  match ← Session.start (i.config.map Path.ofString) with
  | .error abort => return ⟨1, "", some (complaint abort), []⟩
  | .ok session =>
    let (answer, session) ← (perform i.verbose i.command).run.run session
    match answer with
    | .ok text => return ⟨0, text, none, session.events⟩
    | .error abort => return ⟨1, "", some (complaint abort), session.events⟩

/-- What is said about arguments that cannot be used. -/
def UsageError.message : UsageError → String
  | .help topic => helpText topic
  | .version => versionText
  | .nothingGiven => helpText none
  | .missingCommand => "error: a subcommand is required but was not provided"
  | .unknownCommand => "error: unrecognized subcommand"
  | .unknownArgument => "error: unexpected argument found"
  | .noValue => "error: a value is required but none was supplied"
  | .unwantedValue => "error: unexpected value for a switch that takes none"
  | .badNumber => "error: invalid value for a number"
  | .repeated => "error: an argument cannot be used multiple times"
  | .missingArgument => "error: a required argument was not provided"

/-- The ending that arguments lead to which cannot be carried out. Help and
version are printed when they are asked for; anything else is a complaint. -/
def UsageError.ending (e : UsageError) : Ending :=
  match e with
  | .help _ | .version => ⟨0, e.message, none, []⟩
  | _ => ⟨2, "", some e.message, []⟩

/-- Runs the program. -/
def runProgram (args : List String) : m Ending := do
  match Invocation.ofArgs args with
  | .error e => return e.ending
  | .ok invocation => invocation.run

end IrExcerpt.CommandLine
