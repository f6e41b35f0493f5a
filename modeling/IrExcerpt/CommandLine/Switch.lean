/-!
# Switches

The switches of the command line, by command. A switch has a long name and may
have a short one; it stands alone or takes a value, and some may be given more
than once.
-/

namespace IrExcerpt.CommandLine

/-- What a switch is about. -/
inductive Key where
  | config
  | verbose
  | help
  | version
  | path
  | input
  | output
  | function
  | functionPattern
  | linePattern
  | ignorePattern
  | depth
  | failOnEmpty
  | report
  | job
deriving DecidableEq, Repr

/-- What values a switch takes. -/
inductive ValueKind where
  /-- Any text. -/
  | text
  /-- A text that is not empty. -/
  | path
  /-- A number below 2 ^ 64. -/
  | number
deriving DecidableEq, Repr

/-- What a switch does. -/
inductive Role where
  /-- It stands alone and is given at most once. -/
  | flag
  /-- It asks for the help text. -/
  | help
  /-- It asks for the version. -/
  | version
  /-- It takes a value and is given at most once. -/
  | one (kind : ValueKind)
  /-- It takes a value and may be given again. -/
  | many (kind : ValueKind)
deriving DecidableEq, Repr

/-- A switch. -/
structure Switch where
  key : Key
  short : Option Char
  long : String
  role : Role
  about : String
  required : Bool := false
  /-- Whether its value may look like a switch. -/
  anyValue : Bool := false
deriving DecidableEq, Repr

/-- Whether a switch takes a value. -/
def Switch.takesValue (s : Switch) : Bool :=
  match s.role with
  | .one _ | .many _ => true
  | _ => false

/-- The commands. -/
inductive Verb where
  | init
  | extract
  | run
  | graph
deriving DecidableEq, Repr

namespace Verb

/-- All commands. -/
def all : List Verb := [.init, .extract, .run, .graph]

/-- The word for a command. -/
def name : Verb → String
  | .init => "init"
  | .extract => "extract"
  | .run => "run"
  | .graph => "graph"

/-- What a command does. -/
def about : Verb → String
  | .init => "Write a default configuration file"
  | .extract => "Extract functions from a `.ll` file"
  | .run => "Run the jobs defined in the configuration file"
  | .graph => "Show the call layers reachable from the given functions"

/-- The command with a name. -/
def named? (text : String) : Option Verb :=
  all.find? fun v => v.name == text

end Verb

/-! ## The switches of each command -/

/-- Switches that stand in front of a command or behind it. -/
def sharedSwitches : List Switch := [
  { key := .config, short := some 'c', long := "config", role := .one .path
    about := "Path to configuration file" },
  { key := .verbose, short := some 'v', long := "verbose", role := .flag
    about := "Print extra info messages to track the extraction process" },
  { key := .help, short := some 'h', long := "help", role := .help, about := "Print help" }]

/-- Switches in front of a command. -/
def rootSwitches : List Switch :=
  sharedSwitches ++ [
    { key := .version, short := some 'V', long := "version", role := .version, about := "Print version" }]

/-- Switches that belong to a command alone. -/
def Verb.ownSwitches : Verb → List Switch
  | .init => [
    { key := .path, short := some 'p', long := "path", role := .one .path
      about := "Target file (defaults to ./llextract.toml)" }]
  | .extract => [
    { key := .input, short := none, long := "input", role := .one .path, required := true
      about := "Input `.ll` file" },
    { key := .output, short := none, long := "output", role := .one .path
      about := "Output `.ll` file (defaults to the configured file name next to the input)" },
    { key := .function, short := some 'f', long := "function", role := .many .text
      about := "Function to extract by exact name; repeat for several functions" },
    { key := .functionPattern, short := some 'p', long := "function-pattern", role := .many .text
      about := "Extract functions whose names match this regex; repeatable" },
    { key := .linePattern, short := some 'l', long := "line-pattern", role := .many .text
      about := "Extract functions containing a code line that matches this regex; repeatable" },
    { key := .ignorePattern, short := some 'i', long := "ignore-function-pattern", role := .many .text
      about := "Ignore functions whose names match this regex; repeatable" },
    { key := .depth, short := some 'r', long := "recursion-depth", role := .one .text, anyValue := true
      about := "Recursively extract called functions up to this depth (0 disables)" },
    { key := .failOnEmpty, short := none, long := "fail-on-empty", role := .flag
      about := "Fail instead of writing a preamble-only file when nothing matches" },
    { key := .report, short := none, long := "report", role := .one .path
      about := "Also write a JSON report of the extraction" }]
  | .run => [
    { key := .job, short := none, long := "job", role := .one .text
      about := "Only run the job with this name" }]
  | .graph => [
    { key := .input, short := none, long := "input", role := .one .path, required := true
      about := "Input `.ll` file" },
    { key := .function, short := some 'f', long := "function", role := .many .text, required := true
      about := "Starting function; repeatable" },
    { key := .depth, short := some 'r', long := "depth", role := .one .number
      about := "Number of call hops to follow" }]

/-- Switches behind a command. -/
def Verb.switches (v : Verb) : List Switch := v.ownSwitches ++ sharedSwitches

end IrExcerpt.CommandLine
