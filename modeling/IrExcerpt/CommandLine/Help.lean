import IrExcerpt.CommandLine.Switch

/-!
# Help texts

What each command and each switch does, in columns.
-/

namespace IrExcerpt.CommandLine

/-- The name of the program. -/
def programName : String := "llextract"

/-- The version of the program. -/
def programVersion : String := "0.1.0"

/-- The line that tells the version. -/
def versionText : String := programName ++ " " ++ programVersion ++ "\n"

/-- What the value of a switch stands for. -/
def Key.placeholder : Key → String
  | .config => "CONFIG"
  | .path => "PATH"
  | .input => "INPUT"
  | .output => "OUTPUT"
  | .function => "FUNCTIONS"
  | .functionPattern => "FUNCTION_PATTERNS"
  | .linePattern => "LINE_PATTERNS"
  | .ignorePattern => "IGNORE_PATTERNS"
  | .depth => "DEPTH"
  | .report => "REPORT"
  | .job => "JOB"
  | .verbose | .help | .version | .failOnEmpty => ""

/-- A switch by its long name, with a placeholder for its value. -/
def Switch.usage (s : Switch) : String :=
  "--" ++ s.long ++ (if s.takesValue then " <" ++ s.key.placeholder ++ ">" else "")

/-- A switch as the first column shows it. -/
def Switch.term (s : Switch) : String :=
  (match s.short with
    | some c => "-" ++ String.singleton c ++ ", "
    | none => "    ") ++ s.usage

/-- Two columns. -/
def columns (rows : List (String × String)) : String :=
  let width := (rows.map fun (term, _) => term.length).foldl max 0
  String.join (rows.map fun (term, about) =>
    "  " ++ term ++ String.ofList (List.replicate (width - term.length) ' ') ++ "  " ++ about ++ "\n")

/-- The help text of a command, or of the program. -/
def helpText : Option Verb → String
  | none =>
    "Extract selected functions from textual LLVM IR\n\nUsage: " ++ programName ++ " [OPTIONS] <COMMAND>\n\nCommands:\n"
      ++ columns ((Verb.all.map fun v => (v.name, v.about))
        ++ [("help", "Print this message or the help of the given subcommand(s)")])
      ++ "\nOptions:\n" ++ columns (rootSwitches.map fun s => (s.term, s.about))
  | some v =>
    let required := v.switches.filter Switch.required
    v.about ++ "\n\nUsage: " ++ programName ++ " " ++ v.name ++ " [OPTIONS]"
      ++ String.join (required.map fun s => " " ++ s.usage)
      ++ "\n\nOptions:\n" ++ columns (v.switches.map fun s => (s.term, s.about))

end IrExcerpt.CommandLine
