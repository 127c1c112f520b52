import ChassisAdmin.Files.Slot
import ChassisAdmin.Program
import ChassisAdmin.Remote.Error
import ChassisAdmin.Text.Blank
import ChassisAdmin.Text.Escaped
import ChassisAdmin.Text.Split

/-!
# The credentials file

The names and passwords to log in to remote units with stand in a file, one line
for a name and the next for its password.  The pairs are tried in the order of
the file.  Lines are trimmed when they are read, a last line without a partner
counts for nothing, and a file that cannot be read holds no pairs.

A pair is either added at the end or put in place of the whole file.  It is
written as it is given, so adding a pair to a file whose last line is not ended,
or has no partner, changes how the lines are paired.
-/

namespace ChassisAdmin

/-- A name and a password to log in with. -/
structure Credential where
  /-- The name. -/
  username : String
  /-- The password. -/
  password : String
  deriving DecidableEq, Repr

namespace Credential

/-- The word shown in place of a password. -/
def redacted : String := "<redacted>"

/-- A pair for reports, without its password. -/
def shown (c : Credential) : String :=
  "Credential \x7b username: " ++ Text.quoted c.username ++ ", password: " ++
    Text.quoted redacted ++ " \x7d"

/-- The lines of a pair in the file. -/
def lines (c : Credential) : String := c.username ++ "\n" ++ c.password ++ "\n"

end Credential

namespace Credentials

/-- The pairs that lines make, in order. -/
def pairsOfLines : List String → List Credential
  | username :: password :: rest => ⟨username, password⟩ :: pairsOfLines rest
  | _ => []

/-- The trimmed lines of a text. -/
def trimmedLines (content : String) : List String :=
  (Text.lines content.toList).map fun l => String.ofList (Text.trim l)

/-- The pairs in the content of a file. -/
def parse (content : String) : List Credential := pairsOfLines (trimmedLines content)

/-- The pairs in a file that may not be readable. -/
def ofContent (content : Except FileError String) : List Credential :=
  match content with
  | .ok s => parse s
  | .error _ => []

/-- Reads the pairs of a file. -/
def read (path : String) : Program Files.Call Files.Answer (List Credential) :=
  .ask (.read path) fun r => .done (ofContent (r.bind Files.textOf))

/-- Adds a pair at the end of a file. -/
def add (path : String) (c : Credential) : Attempt Files.Call Files.Answer Remote.Error Unit :=
  Attempt.request (.append path (Text.Utf8.encode c.lines)) fun r =>
    r.mapError (Remote.Error.file path)

/-- Puts a pair in place of a file. -/
def replace (path : String) (c : Credential) :
    Attempt Files.Call Files.Answer Remote.Error Unit :=
  Attempt.request (.replace path (Text.Utf8.encode c.lines)) fun r =>
    r.mapError (Remote.Error.file path)

/-- The error of a file that could not be removed. -/
def removalError (path : String) : FileError → Remote.Error
  | .notFound => .credentials path "file does not exist"
  | cause => .file path cause

/-- Removes a file. -/
def remove (path : String) : Attempt Files.Call Files.Answer Remote.Error Unit :=
  Attempt.request (.remove path) fun r => r.mapError (removalError path)

example : parse "admin\r\n  secret \norphan" = [⟨"admin", "secret"⟩] := by decide +kernel

end Credentials

end ChassisAdmin
