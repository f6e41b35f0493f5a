/-!
# Events

What is worth telling while functions are picked and files are written. An
event is what happened; its level and its wording follow from it.
-/

namespace IrExcerpt

/-- How much attention an event asks for. -/
inductive Level where
  | debug
  | info
  | warn
deriving DecidableEq, Repr

/-- The word for a level. -/
def Level.label : Level → String
  | .debug => "debug"
  | .info => "info"
  | .warn => "warn"

/-- What happened. Patterns are given by their sources. -/
inductive Event where
  /-- An ignore pattern matches no definition. -/
  | ignoreUnused (pattern : String)
  /-- An ignore pattern matches definitions, few enough to be listed. -/
  | ignoring (pattern : String) (names : List String)
  /-- An ignore pattern matches more definitions than are listed. -/
  | ignoringMany (pattern : String) (count : Nat)
  /-- The list that was left out. -/
  | omitted (names : List String)
  /-- An asked name has no definition. -/
  | nameMissing (name : String)
  /-- An asked name is ignored. -/
  | nameIgnored (name : String)
  /-- An asked name is selected. -/
  | nameFound (name : String)
  /-- A definition matched by name is ignored. -/
  | matchIgnored (pattern name : String)
  /-- A definition matched by name is selected. -/
  | matchFound (pattern name : String)
  /-- A name pattern matches no definition. -/
  | matchMissing (pattern : String)
  /-- A line of a definition matches. -/
  | lineMatched (pattern name line : String)
  /-- A definition with matching lines is ignored. -/
  | lineMatchIgnored (pattern name : String)
  /-- A definition with matching lines is selected. -/
  | lineMatchFound (pattern name : String) (count : Nat)
  /-- A line pattern matches in no definition. -/
  | lineMatchMissing (pattern : String)
  /-- A called function is ignored. -/
  | calleeIgnored (depth : Nat) (name : String)
  /-- A called function has no definition. -/
  | calleeExternal (caller name : String)
  /-- A called function is selected. -/
  | calleeFound (depth : Nat) (name : String)
  /-- No function was first reached at this depth. -/
  | exhausted (depth : Nat)
  /-- The largest depth has been searched. -/
  | depthReached (depth : Nat)
  /-- The excerpt holds no definition. -/
  | nothingSelected
  /-- A file could not be written and is tried again. -/
  | writeRetried (path reason : String)
deriving DecidableEq, Repr

namespace Event

/-- Names one per line, as they are listed behind a colon. -/
def listing (names : List String) : String :=
  String.join (names.map fun name => "\n\t'" ++ name ++ "'")

/-- The level of an event. -/
def level : Event → Level
  | .ignoreUnused _ | .nameMissing _ | .matchMissing _ | .lineMatchMissing _ => .warn
  | .nothingSelected | .writeRetried .. => .warn
  | .ignoring .. | .ignoringMany .. | .nameFound _ | .matchFound .. => .info
  | .lineMatchFound .. | .calleeFound .. | .exhausted _ | .depthReached _ => .info
  | .omitted _ | .nameIgnored _ | .matchIgnored .. | .lineMatched .. => .debug
  | .lineMatchIgnored .. | .calleeIgnored .. | .calleeExternal .. => .debug

/-- The wording of an event. -/
def message : Event → String
  | .ignoreUnused p =>
    "the ignoring pattern '" ++ p ++ "' is redundant, no functions matching it"
  | .ignoring p names =>
    "matching pattern '" ++ p ++ "', " ++ toString names.length ++ " function(s) will be ignored:" ++ listing names
  | .ignoringMany p count =>
    "matching pattern '" ++ p ++ "', " ++ toString count
      ++ " functions will be ignored ... (their full list is omitted)"
  | .omitted names => "omitted list:" ++ listing names
  | .nameMissing n => "no function with the name '" ++ n ++ "' was found"
  | .nameIgnored n => "found target function by name, but it is ignored: '" ++ n ++ "'"
  | .nameFound n => "found target function by name: '" ++ n ++ "'"
  | .matchIgnored p n =>
    "matching pattern '" ++ p ++ "', found target function, but it is ignored: '" ++ n ++ "'"
  | .matchFound p n => "matching pattern '" ++ p ++ "', found target function: '" ++ n ++ "'"
  | .matchMissing p => "no functions matching pattern '" ++ p ++ "' were found"
  | .lineMatched p n line => "line pattern '" ++ p ++ "' matched in '" ++ n ++ "': '" ++ line ++ "'"
  | .lineMatchIgnored p n =>
    "matching line pattern '" ++ p ++ "', found target function, but it is ignored: '" ++ n ++ "'"
  | .lineMatchFound p n count =>
    "matching line pattern '" ++ p ++ "', found target function: '" ++ n ++ "' ("
      ++ toString count ++ " line(s) matched)"
  | .lineMatchMissing p => "no functions matching line pattern '" ++ p ++ "' were found"
  | .calleeIgnored depth n =>
    "found function call on recursion depth " ++ toString depth ++ ", but it is ignored: '" ++ n ++ "'"
  | .calleeExternal caller n =>
    "'" ++ caller ++ "' calls external function '" ++ n ++ "', nothing to extract"
  | .calleeFound depth n =>
    "found function call on recursion depth " ++ toString depth ++ ": '" ++ n ++ "'"
  | .exhausted depth =>
    "all function calls have been found by recursion depth " ++ toString depth
  | .depthReached depth =>
    "function calls up to max recursion depth " ++ toString depth ++ " have been found"
  | .nothingSelected => "no functions to extract, output will contain only the preamble"
  | .writeRetried path reason => "writing " ++ path ++ " failed (" ++ reason ++ "), retrying once"

end Event

end IrExcerpt
