import IrExcerpt.Config.Text
import IrExcerpt.Extraction.Session

/-!
# Configuration files

A configuration is read from a file that is named, or from the first of three
file names that exists in the working directory, or it is the default one. A
new configuration file never replaces anything.
-/

namespace IrExcerpt

variable [Monad m] [FileAccess m]

namespace Config

/-- Reads the configuration in a file. -/
def load (path : Path) : m (Except Failure Config) := do
  match ← FileAccess.readText path with
  | .error e => return .error (.io e)
  | .ok text => return (ofText text).mapError .config

/-- Writes a configuration into a file. -/
def save (c : Config) (path : Path) : m (Except Failure Unit) := do
  match c.text with
  | .error fault => return .error (.config fault)
  | .ok text => return (← FileAccess.writeText path text).mapError .io

/-- Where a configuration is looked for, in order. -/
def fileNames : List String := ["llextract.toml", "Llextract.toml", ".llextract.toml"]

/-- Reads the first file that exists; without one, the configuration is the
default. -/
def loadFirst : List String → m (Except Failure Config)
  | [] => return .ok default
  | name :: rest => do
    if ← FileAccess.exists? (Path.ofString name) then load (Path.ofString name)
    else loadFirst rest

/-- The configuration to use, `path` being where it was asked for. -/
def locate : (path : Option Path) → m (Except Failure Config)
  | none => loadFirst fileNames
  | some path => do
    if ← FileAccess.exists? path then load path
    else return .error (.config (.missingFile path.display))

/-- Writes the default configuration to a path where nothing lies. -/
def init (path : Path) : m (Except Abort Unit) := do
  if ← FileAccess.exists? path then
    return .error (.of (.config (.alreadyExists path.display)))
  else
    return (← default.save path).mapError (.during (.writing path.display))

end Config

/-- A session with the configuration to use. -/
def Session.start (path : Option Path) : m (Except Abort Session) := do
  return ((← Config.locate path).mapError (.during .loadingConfiguration)).map Session.ofConfig

end IrExcerpt
