import VulnScan.Error
import VulnScan.Text.Quoted

/-! # Files that cannot be read or written -/

set_option autoImplicit false

namespace VulnScan.Config

/-- Why there is no file to be read or written at a path. -/
inductive FileFault where
  /-- The file, or the directory for a new file, does not exist. -/
  | missing
  /-- There is a directory at the path. -/
  | directory
  /-- The path goes on after a file. -/
  | noDirectory
  /-- The path, or a name in it, is too long. -/
  | tooLong
  /-- A name holds a character with code zero. -/
  | zero
  /-- The content is no text. -/
  | noText
deriving DecidableEq, Inhabited

/-- What is said about a path without a file. -/
def FileFault.message : FileFault → String
  | .missing => "No such file or directory (os error 2)"
  | .directory => "Is a directory (os error 21)"
  | .noDirectory => "Not a directory (os error 20)"
  | .tooLong => "File name too long (os error 36)"
  | .zero => "file name contained an unexpected NUL byte"
  | .noText => "stream did not contain valid UTF-8"

/-- The error of a configuration file that cannot be read. -/
def unreadable (path : String) (f : FileFault) : Error :=
  .configuration ("Failed to read config file " ++ Text.quoted path ++ ": " ++ f.message)

/-- The error of a file that cannot be written. -/
def unwritable (f : FileFault) : Error := .io f.message

end VulnScan.Config
