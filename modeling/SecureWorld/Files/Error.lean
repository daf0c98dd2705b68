/-!
# File errors

Why a file is not read or written, and how that is said.
-/

namespace SecureWorld.Files

/-- Why a file is not read or written. -/
inductive Error where
  /-- A name on the path is not there. -/
  | missing
  | denied
  /-- A name on the path, or before a slash at its end, is a file. -/
  | notDirectory
  /-- The path leads to a directory. -/
  | directory
  /-- A name, or the whole path, is too long. -/
  | nameTooLong
  /-- The bytes of the file are not UTF-8. -/
  | notText
  | other (text : String)
deriving DecidableEq, Repr

/-- The text of a file error; those of the operating system have a number. -/
def Error.message : Error → String
  | .missing => "No such file or directory (os error 2)"
  | .denied => "Permission denied (os error 13)"
  | .notDirectory => "Not a directory (os error 20)"
  | .directory => "Is a directory (os error 21)"
  | .nameTooLong => "File name too long (os error 36)"
  | .notText => "stream did not contain valid UTF-8"
  | .other text => text

end SecureWorld.Files
