import IrExcerpt.Storage.IoError
import IrExcerpt.Storage.Path

/-!
# Access to files

What an extraction asks of the place where files are kept. Every operation that
can fail says why. Programs are written against this interface, so that they
can be run on a real file system and reasoned about on any other.
-/

namespace IrExcerpt

/-- Operations on files, in a monad `m`. -/
class FileAccess (m : Type → Type) where
  /-- The content of a file, which must be UTF-8. -/
  readText : Path → m (Except IoError String)
  /-- Whether anything lies at a path. -/
  exists? : Path → m Bool
  /-- Whether a directory lies at a path. -/
  isDirectory : Path → m Bool
  /-- Makes an empty file with a new name in a directory. -/
  createTemp : (directory : Path) → m (Except IoError Path)
  /-- Puts text into such a file. -/
  writeTemp : Path → String → m (Except IoError Unit)
  /-- Makes sure that the text of such a file lasts. -/
  syncTemp : Path → m (Except IoError Unit)
  /-- Moves a file to a path, replacing a file that lies there. -/
  rename : (source target : Path) → m (Except IoError Unit)
  /-- Removes a file. -/
  discard : Path → m Unit
  /-- Puts text at a path, replacing a file that lies there. -/
  writeText : Path → String → m (Except IoError Unit)
  /-- The time, as reports show it. -/
  now : m String

end IrExcerpt
