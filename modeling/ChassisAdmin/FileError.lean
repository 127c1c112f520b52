/-!
# Why a file could not be used

The causes of a failed access to a file, with the operating system's wording.
Only `notFound` is ever told apart by the rest of the library: a missing file
often means that a default applies, and every other cause is an error.
-/

namespace ChassisAdmin

/-- The cause of a failed access to a file or of a failed start of a command. -/
inductive FileError where
  /-- Nothing stands at the path. -/
  | notFound
  /-- A directory stands where a file was expected. -/
  | isDirectory
  /-- A file stands where a directory was expected. -/
  | notDirectory
  /-- A part of the path is longer than the file system allows. -/
  | nameTooLong
  /-- The file is not UTF-8 text. -/
  | notText
  /-- The path holds the character NUL. -/
  | nulInName
  /-- The command holds the character NUL. -/
  | nulInCommand
  /-- Any other cause, in the operating system's words. -/
  | other (text : String)
  deriving DecidableEq, Repr

/-- The wording of a cause. -/
def FileError.message : FileError → String
  | .notFound => "No such file or directory (os error 2)"
  | .isDirectory => "Is a directory (os error 21)"
  | .notDirectory => "Not a directory (os error 20)"
  | .nameTooLong => "File name too long (os error 36)"
  | .notText => "stream did not contain valid UTF-8"
  | .nulInName => "file name contained an unexpected NUL byte"
  | .nulInCommand => "nul byte found in provided data"
  | .other text => text

end ChassisAdmin
