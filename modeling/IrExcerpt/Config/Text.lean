import IrExcerpt.Config.Basic
import IrExcerpt.Toml.Printer
import IrExcerpt.Toml.Reader

/-!
# Configurations as text

A configuration is written as TOML: one table with the defaults, and one table
per job. When it is read, a setting that is missing has its default and an
unknown one is passed over, but a value of a wrong kind is a fault. A table may
be given as the list of its values instead, in the order in which they are
written.
-/

namespace IrExcerpt

open Toml (Value)

namespace Config

/-! ## Reading values -/

/-- A text. -/
def text? : Value → Option String
  | .string text => some text
  | _ => none

/-- A list of texts. -/
def texts? : Value → Option (List String)
  | .array items => items.mapM text?
  | _ => none

/-- A signed number. -/
def number? : Value → Option Int64
  | .integer value => some value
  | _ => none

/-- A number that is not negative. -/
def count? : Value → Option Nat
  | .integer value => if value < 0 then none else some value.toNatClampNeg
  | _ => none

/-- A truth value. -/
def flag? : Value → Option Bool
  | .boolean value => some value
  | _ => none

/-- Settings by name, or in order. -/
inductive Settings where
  | named (fields : List (String × Value))
  | listed (values : List Value)

/-- The settings a value holds. A date holds none, but is read as a table. -/
def settings? : Value → Option Settings
  | .table fields => some (.named fields)
  | .array values => some (.listed values)
  | .dateTime _ => some (.named [])
  | _ => none

/-- The setting with a place and a name. -/
def Settings.get? (s : Settings) (place : Nat) (name : String) : Option Value :=
  match s with
  | .named fields => fields.lookup name
  | .listed values => values[place]?

/-- Reads a setting that has a default. -/
def Settings.read (s : Settings) (place : Nat) (name : String) (as : Value → Option α) (fallback : α) : Option α :=
  match s.get? place name with
  | some value => as value
  | none => some fallback

/-- Reads a setting that may be missing. -/
def Settings.read? (s : Settings) (place : Nat) (name : String) (as : Value → Option α) : Option (Option α) :=
  s.read place name (fun value => (as value).map some) none

/-! ## Reading configurations -/

/-- The defaults a value holds. -/
def defaults? (value : Value) : Option Defaults := do
  let s ← settings? value
  return {
    outputName := ← s.read 0 "output_file_name" text? default.defaults.outputName
    depth := ← s.read 1 "recursion_depth" number? default.defaults.depth
    ignorePatterns := ← s.read 2 "ignore_patterns" texts? []
    failOnEmpty := ← s.read 3 "fail_on_empty" flag? default.defaults.failOnEmpty
    listLimit := ← s.read 4 "ignored_names_log_limit" count? default.defaults.listLimit }

/-- The job a value describes. -/
def jobOf? (value : Value) : Option Job := do
  let s ← settings? value
  return {
    name := ← s.read 0 "name" text? ""
    input := ← s.read 1 "input" text? ""
    output := ← s.read? 2 "output" text?
    functions := ← s.read 3 "functions" texts? []
    functionPatterns := ← s.read 4 "function_patterns" texts? []
    linePatterns := ← s.read 5 "line_patterns" texts? []
    ignorePatterns := ← s.read 6 "ignore_patterns" texts? []
    depth := ← s.read? 7 "recursion_depth" number?
    failOnEmpty := ← s.read? 8 "fail_on_empty" flag?
    report := ← s.read? 9 "report" text? }

/-- The jobs a value describes. -/
def jobsOf? : Value → Option (List Job)
  | .array items => items.mapM jobOf?
  | _ => none

/-- The configuration a table holds. -/
def ofTable? (fields : List (String × Value)) : Option Config := do
  let s := Settings.named fields
  return {
    defaults := ← s.read 0 "defaults" defaults? default.defaults
    jobs := ← s.read 1 "jobs" jobsOf? [] }

/-- Reads a configuration and checks it. -/
def ofText (text : String) : Except ConfigFault Config :=
  match (Toml.read? text).bind ofTable? with
  | none => .error .badToml
  | some config =>
    match config.validate with
    | .error fault => .error fault
    | .ok () => .ok config

/-! ## Writing configurations -/

/-- A list of texts as a value. -/
def textsValue (texts : List String) : Value := .array (texts.map .string)

/-- A setting that is written only when it is given. -/
def given (name : String) (as : α → Value) : Option α → List (String × Value)
  | some a => [(name, as a)]
  | none => []

/-- The defaults as a table. -/
def defaultsSection (d : Defaults) : Toml.Section :=
  { name := "defaults"
    listed := false
    pairs := [
      ("output_file_name", .string d.outputName),
      ("recursion_depth", .integer d.depth),
      ("ignore_patterns", textsValue d.ignorePatterns),
      ("fail_on_empty", .boolean d.failOnEmpty),
      ("ignored_names_log_limit", .integer (Int64.ofNat d.listLimit))] }

/-- A job as a table. -/
def jobSection (job : Job) : Toml.Section :=
  { name := "jobs"
    listed := true
    pairs :=
      [("name", .string job.name), ("input", .string job.input)]
      ++ given "output" .string job.output
      ++ [("functions", textsValue job.functions),
        ("function_patterns", textsValue job.functionPatterns),
        ("line_patterns", textsValue job.linePatterns),
        ("ignore_patterns", textsValue job.ignorePatterns)]
      ++ given "recursion_depth" .integer job.depth
      ++ given "fail_on_empty" .boolean job.failOnEmpty
      ++ given "report" .string job.report }

/-- The text of a configuration. TOML has no number for a limit of 2 ^ 63 or
more. -/
def text (c : Config) : Except ConfigFault String :=
  if Toml.Number.integerBound ≤ c.defaults.listLimit then .error .limitTooLarge
  else
    let front := if c.jobs.isEmpty then [("jobs", Value.array [])] else []
    .ok (Toml.write front (defaultsSection c.defaults :: c.jobs.map jobSection))

end Config

end IrExcerpt
