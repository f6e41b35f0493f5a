/-!
# Input and output errors

Why a file could not be read or written. Errors that the operating system
numbers carry their number in the message.
-/

namespace IrExcerpt

/-- Why a file operation failed. -/
inductive IoError where
  | notFound
  | busy
  | notDirectory
  | isDirectory
  | nameTooLong
  /-- The file's content is no UTF-8 text. -/
  | notText
  /-- A path holds a NUL byte, which no file name can. -/
  | nulInPath
  /-- The directory that a file is to be put into is not there. -/
  | noOutputDirectory (directory : String)
  /-- Anything else that the system reports. -/
  | other (reason : String)
deriving DecidableEq, Repr

/-- An error of the operating system, with its number. -/
def IoError.numbered (reason : String) (number : Nat) : String :=
  reason ++ " (os error " ++ toString number ++ ")"

/-- The wording of an error. -/
def IoError.message : IoError → String
  | .notFound => numbered "No such file or directory" 2
  | .busy => numbered "Device or resource busy" 16
  | .notDirectory => numbered "Not a directory" 20
  | .isDirectory => numbered "Is a directory" 21
  | .nameTooLong => numbered "File name too long" 36
  | .notText => "stream did not contain valid UTF-8"
  | .nulInPath => "file name contained an unexpected NUL byte"
  | .noOutputDirectory directory => "output directory " ++ directory ++ " does not exist"
  | .other reason => reason

end IrExcerpt
