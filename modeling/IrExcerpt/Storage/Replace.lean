import IrExcerpt.Selection.Event
import IrExcerpt.Storage.FileAccess

/-!
# Replacing files

A file is replaced in two steps. First the new text is staged: it is put into a
temporary file in the same directory. Then it is moved into place, which either
replaces the whole file or leaves it as it is. So the target never holds half of
a text. A temporary file that cannot be moved is removed.
-/

namespace IrExcerpt

variable [Monad m] [FileAccess m]

/-- A text that waits in a temporary file to be moved to its target. -/
structure Staged where
  temp : Path
  target : Path
deriving DecidableEq, Repr

/-- Gives up on a temporary file. -/
def abandon (temp : Path) (error : IoError) : m (Except IoError α) := do
  FileAccess.discard temp
  return .error error

/-- Puts a text into a temporary file next to its target. -/
def stage (target : Path) (text : String) : m (Except IoError Staged) := do
  let directory := target.directory
  if ← FileAccess.isDirectory directory then
    match ← FileAccess.createTemp directory with
    | .error e => return .error e
    | .ok temp =>
      match ← FileAccess.writeTemp temp text with
      | .error e => abandon temp e
      | .ok () =>
        match ← FileAccess.syncTemp temp with
        | .error e => abandon temp e
        | .ok () => return .ok ⟨temp, target⟩
  else return .error (.noOutputDirectory directory.display)

/-- Moves a staged text into place. -/
def Staged.commit (s : Staged) : m (Except IoError Unit) := do
  match ← FileAccess.rename s.temp s.target with
  | .error e => abandon s.temp e
  | .ok () => return .ok ()

/-- Stages a text and moves it into place. -/
def replaceOnce (target : Path) (text : String) : m (Except IoError Unit) := do
  match ← stage target text with
  | .error e => return .error e
  | .ok staged => staged.commit

/-- Replaces a file. When that fails although the directory is there, it is
tried once more. -/
def replaceFile (target : Path) (text : String) : m (Except IoError Unit × List Event) := do
  match ← replaceOnce target text with
  | .ok () => return (.ok (), [])
  | .error e =>
    if ← FileAccess.isDirectory target.directory then
      let second ← replaceOnce target text
      return (second, [.writeRetried target.display e.message])
    else return (.error e, [])

end IrExcerpt
