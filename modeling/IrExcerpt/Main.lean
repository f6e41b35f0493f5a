import IrExcerpt.CommandLine.Run
import Std.Time

/-!
# The program

The outer layer: files are those of the operating system, output goes to the
standard streams, and the exit code tells how it went. Everything else is
decided elsewhere.
-/

namespace IrExcerpt

/-- An error of the operating system, by its number. -/
def IoError.ofCode (code : UInt32) (details : String) : IoError :=
  match code with
  | 2 => .notFound
  | 16 => .busy
  | 20 => .notDirectory
  | 21 => .isDirectory
  | 36 => .nameTooLong
  | _ => .other details

/-- An error of the runtime system. -/
def IoError.ofSystem (e : IO.Error) : IoError :=
  match e with
  | .noFileOrDirectory _ code details => ofCode code details
  | .inappropriateType _ code details => ofCode code details
  | .resourceBusy code details => ofCode code details
  | .invalidArgument _ code details => ofCode code details
  | e => .other (toString e)

/-- Runs an action and returns its error. -/
def reported (action : IO α) : IO (Except IoError α) := do
  match ← action.toBaseIO with
  | .ok a => return .ok a
  | .error e => return .error (IoError.ofSystem e)

/-- Makes a file with a name that no other has. -/
def createTempIn (directory : Path) : IO (Except IoError Path) := do
  let number ← IO.rand 0 999999999
  let path := directory.join (Path.ofString (".tmp" ++ toString number))
  reported do
    let _ ← IO.FS.Handle.mk path.display IO.FS.Mode.writeNew
    return path

instance : FileAccess IO where
  readText path := do
    match ← reported (IO.FS.readBinFile path.display) with
    | .error e => return .error e
    | .ok content =>
      match String.fromUTF8? content with
      | some text => return .ok text
      | none => return .error .notText
  exists? path := do return ← ((← IO.currentDir) / path.display).pathExists
  isDirectory path := do return ← ((← IO.currentDir) / path.display).isDir
  createTemp directory := createTempIn directory
  writeTemp path text := reported (IO.FS.writeFile path.display text)
  syncTemp _ := return .ok ()
  rename source target := reported (IO.FS.rename source.display target.display)
  discard path := do
    let _ ← reported (IO.FS.removeFile path.display)
  writeText path text := reported (IO.FS.writeFile path.display text)
  now := do
    let time := Std.Time.DateTime.ofTimestampWithZone (← Std.Time.Timestamp.now) Std.Time.TimeZone.UTC
    return time.format "uuuu-MM-dd'T'HH:mm:ss.SSSSSSSSS'Z'"

/-- Whether an event is shown. -/
def Event.isShown (verbose : Bool) (e : Event) : Bool :=
  e.level == .warn || (verbose && e.level == .info)

end IrExcerpt

open IrExcerpt

/-- Runs the program on the arguments of the command line. -/
def main (args : List String) : IO UInt32 := do
  let ending ← CommandLine.runProgram args
  let verbose := match CommandLine.Invocation.ofArgs args with
    | .ok invocation => invocation.verbose
    | .error _ => false
  for e in ending.events do
    if e.isShown verbose then
      IO.eprintln (e.level.label.toUpper ++ " " ++ e.message)
  IO.print ending.output
  if let some text := ending.complaint then
    IO.eprintln text
  return ending.exitCode.toUInt32
