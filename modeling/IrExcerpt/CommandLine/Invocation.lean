import IrExcerpt.CommandLine.Parser

/-!
# Invocations

A command with what it needs. A switch that may stand on both sides of the
command counts behind it if it is given there.
-/

namespace IrExcerpt.CommandLine

/-- A command and its settings. -/
inductive Command where
  | init (path : String)
  | extract (input : String) (output : Option String)
      (functions functionPatterns linePatterns ignorePatterns : List String)
      (depth : Option String) (failOnEmpty : Bool) (report : Option String)
  | run (job : Option String)
  | graph (input : String) (functions : List String) (depth : Nat)
deriving DecidableEq, Repr

/-- What the program is asked to do. -/
structure Invocation where
  config : Option String
  verbose : Bool
  command : Command
deriving DecidableEq, Repr

/-- The command that has been given. -/
def Reading.command (r : Reading) : Command :=
  let l := r.behind
  let input := (l.value? .input).getD ""
  match r.verb with
  | .init => .init ((l.value? .path).getD "llextract.toml")
  | .extract =>
    .extract input (l.value? .output) (l.values .function) (l.values .functionPattern)
      (l.values .linePattern) (l.values .ignorePattern) (l.value? .depth) (l.has .failOnEmpty)
      (l.value? .report)
  | .run => .run (l.value? .job)
  | .graph =>
    .graph input (l.values .function) (((l.value? .depth).bind fun d => Depth.unsigned? d.toList).getD 1)

/-- What all arguments together ask for. -/
def Invocation.ofArgs (args : List String) : Except UsageError Invocation := do
  let r ← read args
  return {
    config := r.behind.value? .config <|> r.front.value? .config
    verbose := r.behind.has .verbose || r.front.has .verbose
    command := r.command }

end IrExcerpt.CommandLine
