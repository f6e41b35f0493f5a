import IrExcerpt.CommandLine.Switch
import IrExcerpt.Depth

/-!
# Reading arguments

Arguments are read from left to right, in front of the command and behind it.
A switch takes its value from the same argument, behind an equals sign or, for a
short name, directly behind it, or else from the next argument. Short names may
be put together behind one hyphen. A value that has been taken from the next
argument is checked when another switch follows or the arguments end; until
then an unknown switch is the worse error.
-/

namespace IrExcerpt.CommandLine

/-- Why arguments are not carried out. -/
inductive UsageError where
  /-- The help text is asked for, of all or of one command. -/
  | help (topic : Option Verb)
  /-- The version is asked for. -/
  | version
  /-- There are no arguments. -/
  | nothingGiven
  | missingCommand
  | unknownCommand
  | unknownArgument
  /-- A value is missing, or is empty where it must not be. -/
  | noValue
  /-- A value is given to a switch that takes none. -/
  | unwantedValue
  /-- A value is no number. -/
  | badNumber
  /-- A switch is given again that is given at most once. -/
  | repeated
  /-- A switch that must be given is missing. -/
  | missingArgument
deriving DecidableEq, Repr

/-! ## What has been given -/

/-- The switches given so far at one side of the command. -/
structure Level where
  /-- Switches with their values, in order; a flag has the empty text. -/
  given : List (Key × String)
  /-- The last switch, if its value comes from another argument. -/
  pending : Option (Switch × Option String)
deriving DecidableEq, Repr

namespace Level

/-- Nothing given. -/
def empty : Level := ⟨[], none⟩

/-- The values given to a switch. -/
def values (l : Level) (key : Key) : List String :=
  (l.given.filter fun (k, _) => k == key).map Prod.snd

/-- The value given to a switch. -/
def value? (l : Level) (key : Key) : Option String := (l.values key).head?

/-- Whether a switch is given. -/
def has (l : Level) (key : Key) : Bool := l.given.any fun (k, _) => k == key

/-- The switch that waits for its value in the next argument. -/
def awaiting? (l : Level) : Option Switch :=
  match l.pending with
  | some (s, none) => some s
  | _ => none

/-- Adds a switch that may be given more than once. -/
def add (l : Level) (key : Key) (value : String) : Level :=
  { l with given := l.given ++ [(key, value)] }

/-- Adds a switch that may be given once. -/
def addOnce (l : Level) (key : Key) : Except UsageError Unit :=
  if l.has key then .error .repeated else .ok ()

/-- Checks a value. -/
def check (kind : ValueKind) (value : String) : Except UsageError Unit :=
  match kind with
  | .text => .ok ()
  | .path => if value.isEmpty then .error .noValue else .ok ()
  | .number => if (Depth.unsigned? value.toList).isSome then .ok () else .error .badNumber

/-- Takes a switch with its value, or without one if it takes none. -/
def accept (l : Level) (topic : Option Verb) (s : Switch) (value : String) : Except UsageError Level := do
  match s.role with
  | .help => throw (.help topic)
  | .version => throw .version
  | .flag =>
    l.addOnce s.key
    return l.add s.key ""
  | .one kind =>
    l.addOnce s.key
    check kind value
    return l.add s.key value
  | .many kind =>
    check kind value
    return l.add s.key value

/-- Settles the switch whose value came from another argument. -/
def settle (l : Level) (topic : Option Verb) : Except UsageError Level :=
  match l.pending with
  | none => .ok l
  | some (_, none) => .error .noValue
  | some (s, some value) => accept { l with pending := none } topic s value

/-- Settles what is pending and takes a switch. -/
def take (l : Level) (topic : Option Verb) (s : Switch) (value : String) : Except UsageError Level := do
  (← l.settle topic).accept topic s value

/-- Settles what is pending and waits for the value of a switch. -/
def await (l : Level) (topic : Option Verb) (s : Switch) : Except UsageError Level := do
  return { ← l.settle topic with pending := some (s, none) }

end Level

/-! ## One side of the command -/

/-- What may be given at one side of the command. -/
structure Side where
  /-- The command that the arguments stand behind. -/
  topic : Option Verb
  switches : List Switch

/-- The switch with a long name. -/
def Side.long? (s : Side) (name : String) : Option Switch :=
  s.switches.find? fun w => w.long == name

/-- The switch with a short name. -/
def Side.short? (s : Side) (name : Char) : Option Switch :=
  s.switches.find? fun w => w.short == some name

/-- Reads a switch by its long name, with what stands behind an equals sign. -/
def Side.readLong (side : Side) (l : Level) (body : List Char) : Except UsageError Level :=
  let name := body.takeWhile (· != '=')
  let value := body.dropWhile (· != '=')
  match side.long? (String.ofList name) with
  | none => .error .unknownArgument
  | some s =>
    match value with
    | [] => if s.takesValue then l.await side.topic s else l.take side.topic s ""
    | _ :: value => if s.takesValue then l.take side.topic s (String.ofList value) else .error .unwantedValue

/-- Reads switches by their short names, the last one possibly with its value. -/
def Side.readShort (side : Side) : Level → List Char → Except UsageError Level
  | l, [] => .ok l
  | l, c :: rest =>
    match side.short? c with
    | none => .error .unknownArgument
    | some s =>
      if s.takesValue then
        match rest with
        | [] => l.await side.topic s
        | '=' :: value => l.take side.topic s (String.ofList value)
        | value => l.take side.topic s (String.ofList value)
      else do
        let l ← l.take side.topic s ""
        side.readShort l rest

/-- Reads an argument that is a switch; `none` if it is none. -/
def Side.readSwitch? (side : Side) (l : Level) (arg : String) : Option (Except UsageError Level) :=
  match arg.toList with
  | '-' :: '-' :: c :: body => some (side.readLong l (c :: body))
  | '-' :: c :: body => if c = '-' then none else some (side.readShort l (c :: body))
  | _ => none

/-- What follows the arguments at one side: a word that is a command, and the
arguments behind it. -/
abbrev Next (α : Type) := Option (α × List String)

/-- Reads the arguments up to a command. `stray` is the error for an argument
that is neither a switch nor a command; it is told whether two hyphens stood in
front of it. -/
def Side.read (side : Side) (command? : String → Option α) (stray : Bool → String → UsageError) :
    Level → List String → Except UsageError (Level × Next α)
  | l, [] => .ok (l, none)
  | l, arg :: rest =>
    match l.awaiting? with
    | some s =>
      if s.anyValue then side.read command? stray { l with pending := some (s, some arg) } rest
      else if arg = "--" then afterHyphens l rest
      else
        match side.readSwitch? l arg with
        | some (.error e) => .error e
        | some (.ok l) => side.read command? stray l rest
        | none => side.read command? stray { l with pending := some (s, some arg) } rest
    | none =>
      match command? arg with
      | some c => .ok (l, some (c, rest))
      | none =>
        if arg = "--" then afterHyphens l rest
        else
          match side.readSwitch? l arg with
          | some (.error e) => .error e
          | some (.ok l) => side.read command? stray l rest
          | none => .error (stray false arg)
where
  /-- Behind two hyphens nothing is a switch or a command. -/
  afterHyphens (l : Level) : List String → Except UsageError (Level × Next α)
    | [] => .ok (l, none)
    | arg :: _ => .error (stray true arg)

/-! ## All arguments -/

/-- A word in front of which switches may stand. -/
inductive Word where
  | verb (v : Verb)
  | help
deriving DecidableEq, Repr

/-- The command word an argument is. -/
def Word.named? (arg : String) : Option Word :=
  if arg = "help" then some .help else (Verb.named? arg).map .verb

/-- An argument in front of the command that is no switch. -/
def strayInFront (afterHyphens : Bool) (arg : String) : UsageError :=
  if afterHyphens && (Word.named? arg).isSome then .unknownArgument else .unknownCommand

/-- What the words behind `help` ask for. -/
def helpOn : List String → UsageError
  | [] => .help none
  | [arg] =>
    match Word.named? arg with
    | some (.verb v) => .help (some v)
    | some .help => .help none
    | none => .unknownCommand
  | _ => .unknownCommand

/-- What has been given in front of a command and behind it. -/
structure Reading where
  verb : Verb
  front : Level
  behind : Level
deriving DecidableEq, Repr

/-- Reads all arguments. What stands behind the command is settled first. -/
def read (args : List String) : Except UsageError Reading := do
  let root : Side := ⟨none, rootSwitches⟩
  let (front, next) ← root.read Word.named? strayInFront Level.empty args
  match next with
  | none =>
    let front ← front.settle none
    throw (if front.given.isEmpty then .nothingGiven else .missingCommand)
  | some (.help, rest) => throw (helpOn rest)
  | some (.verb verb, rest) =>
    let side : Side := ⟨some verb, verb.switches⟩
    let (behind, _) ← side.read (fun _ => (none : Option Unit)) (fun _ _ => .unknownArgument) Level.empty rest
    let behind ← behind.settle (some verb)
    if verb.switches.any fun s => s.required && !behind.has s.key then throw .missingArgument
    let front ← front.settle none
    return ⟨verb, front, behind⟩

end IrExcerpt.CommandLine
