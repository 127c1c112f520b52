import ChassisAdmin.CommandLine.Run
import ChassisAdmin.Store.Redis
import ChassisAdmin.CommandLine.Usage
import Std.Time.DateTime.Timestamp

/-!
# The program

The program answers the requests of a command with the files, the environment
and the clock of this machine.  It is linked with no client for databases and
remote units and starts no other programs, so every request for these fails with
an error that says so.
-/

namespace ChassisAdmin

open CommandLine (Request Answer)

namespace Machine

/-- The cause of a failed access to a file. -/
def causeOf : IO.Error → FileError
  | .noFileOrDirectory .. => .notFound
  | .inappropriateType _ code details | .invalidArgument _ code details =>
      match code with
      | 20 => .notDirectory
      | 21 => .isDirectory
      | 36 => .nameTooLong
      | _ => .other details
  | e => .other (toString e)

/-- Access to a file, with the cause where it fails. -/
def guarded {α : Type} (act : IO α) : IO (Except FileError α) := do
  try
    return .ok (← act)
  catch e =>
    return .error (causeOf e)

/-- Lets nobody but the owner read and write a file. -/
def restrict (path : String) : IO Unit :=
  IO.setAccessRights path { user := { read := true, write := true } }

/-- Whether anything stands at a path. -/
def isPresent (path : String) : IO Bool := do
  match ← guarded (IO.FS.readBinFile path) with
  | .error .notFound => return false
  | _ => return true

/-- Writes bytes to a file, which is restricted if it is new or replaced. -/
def write (path : String) (mode : IO.FS.Mode) (bytes : List UInt8) : IO Unit := do
  let present ← isPresent path
  IO.FS.withFile path mode fun file => do
    if !present || mode matches .write then
      restrict path
    file.write (ByteArray.mk bytes.toArray)

/-- Answers a call on a file. -/
def answerFile : (c : Files.Call) → IO (Files.Answer c)
  | .read path => guarded do return (← IO.FS.readBinFile path).toList
  | .isPresent path => guarded (isPresent path)
  | .append path bytes => guarded (write path .append bytes)
  | .replace path bytes => guarded (write path .write bytes)
  | .remove path => guarded (IO.FS.removeFile path)

/-- The reading of the clock. -/
def now : IO Time.DateTime := do
  let t ← Std.Time.Timestamp.now
  return (Time.DateTime.ofUnixNanos? t.toNanosecondsSinceUnixEpoch.val).getD .epoch

/-- Why other programs, databases and remote units cannot be reached. -/
def unsupported : String := "not supported by this program"

/-- Answers a request. -/
def answer : (r : Request) → IO (Answer r)
  | .file c => answerFile c
  | .environment name => return (← IO.getEnv name).map Text.Utf8.encode
  | .clock => now
  | .connect a => return .error (Store.Redis.connectError a unsupported)
  | .store _ _ => return .error (.database "call" unsupported)
  | .service c =>
      return Service.answerOf c (.error (.notStarted (Service.command c) (.other unsupported)))
  | .shell command => return .error (.notStarted command (.other unsupported))
  | .execute target _ _ => return .error (.ssh target.host unsupported)
  | .pause time => IO.sleep (time / 1000000).toUInt32
  | .print line => IO.println line
  | .complain line => IO.eprintln line

/-- Answers all requests of a program. -/
def perform {α : Type} : Program Request Answer α → IO α
  | .done a => return a
  | .ask op resume => do
      let r ← answer op
      perform (resume r)

end Machine

end ChassisAdmin

/-- Runs what the arguments say. -/
def main (args : List String) : IO UInt32 := do
  match ChassisAdmin.CommandLine.parse args with
  | .ok invocation => return (← ChassisAdmin.Machine.perform invocation.main).toUInt32
  | .error refusal =>
      if refusal.exitStatus = 0 then IO.println refusal.text else IO.eprintln refusal.text
      return refusal.exitStatus.toUInt32
