import ChassisAdmin.Credentials
import ChassisAdmin.Shell.Result

/-!
# One command on a remote unit

A session connects to a server, logs in with a password, opens a channel, runs
one command on it and collects what comes back until the channel ends.  The
identity of the server is not checked, since remote units get a new one whenever
they are installed anew.

What comes back is a sequence of messages.  They are taken in one after the other
(`Collected.add`), the bytes of the two outputs each at the end of those before
it, and an exit status in the place of the one before it.  The bytes are decoded
when the channel has ended.  A channel that ends without an exit status counts as
exit code -1.  Messages of other kinds, and of other streams, do not count.
-/

namespace ChassisAdmin.Remote

/-- The server of a remote unit. -/
structure Target where
  /-- The address. -/
  host : String
  /-- The port of the server. -/
  port : Nat
  /-- The time allowed for the connection to come about, in nanoseconds. -/
  connectTimeout : Nat
  deriving DecidableEq, Repr

/-! ## What a command sends back -/

/-- A message on the channel of a command. -/
inductive Message where
  /-- Bytes of the standard output. -/
  | data (bytes : List UInt8)
  /-- Bytes of another stream. -/
  | extended (stream : Nat) (bytes : List UInt8)
  /-- The exit status. -/
  | exitStatus (status : Nat)
  /-- A message of any other kind. -/
  | other
  deriving DecidableEq, Repr

/-- The number of the stream of the standard error output. -/
def errorStream : Nat := 1

/-- The greatest exit code.  A greater status counts as this one. -/
def maxExitCode : Nat := 2147483647

/-- The exit code of a command with some exit status, or with none. -/
def exitCodeOf : Option Nat → Int
  | some status => min status maxExitCode
  | none => -1

/-- What came on a channel so far: the bytes of both outputs, and the last exit status. -/
structure Collected where
  /-- The bytes of the standard output. -/
  output : List UInt8
  /-- The bytes of the standard error output. -/
  errors : List UInt8
  /-- The exit status that came last. -/
  status : Option Nat
  deriving DecidableEq, Repr

namespace Collected

/-- A channel on which nothing came yet. -/
def nothing : Collected := ⟨[], [], none⟩

/-- Takes a message in. -/
def add (c : Collected) : Message → Collected
  | .data bytes => { c with output := c.output ++ bytes }
  | .extended stream bytes =>
      if stream = errorStream then { c with errors := c.errors ++ bytes } else c
  | .exitStatus status => { c with status := some status }
  | .other => c

/-- The result that is made of it. -/
def result (c : Collected) : Shell.Result := .ofBytes (exitCodeOf c.status) c.output c.errors

end Collected

/-- The result of a command from the messages on its channel, taken in one after the other. -/
def resultOf (messages : List Message) : Shell.Result :=
  (messages.foldl Collected.add .nothing).result

/-! ## The session -/

/-- Why a connection did not come about. -/
inductive ConnectFailure where
  /-- The time allowed passed. -/
  | timedOut
  /-- The transport failed. -/
  | failed (cause : String)
  deriving DecidableEq, Repr

/-- A step of a session. -/
inductive Call where
  /-- Connects to a server. -/
  | connect (target : Target)
  /-- Logs in. -/
  | authenticate (credential : Credential)
  /-- Opens a channel. -/
  | openChannel
  /-- Runs a command on the channel and collects its messages. -/
  | run (command : String)
  /-- Ends the session. -/
  | disconnect
  deriving DecidableEq, Repr

/-- The answer to a step.  Failures are in the words of the transport. -/
abbrev Call.Answer : Call → Type
  | connect _ => Except ConnectFailure Unit
  | authenticate _ => Except String Bool
  | openChannel => Except String Unit
  | run _ => Except String (List Message)
  | disconnect => Except String Unit

/-- A part of a session. -/
abbrev Session (α : Type) : Type := Attempt Call Call.Answer Error α

/-- The error of a connection that did not come about. -/
def connectError (target : Target) : ConnectFailure → Error
  | .timedOut => .timeout target.host target.connectTimeout
  | .failed cause => .ssh target.host cause

/-- Connects and logs in. -/
def login (target : Target) (credential : Credential) : Session Unit := do
  Attempt.request (.connect target) fun r => r.mapError (connectError target)
  let accepted ← Attempt.request (.authenticate credential) fun r =>
    r.mapError (Error.ssh target.host)
  if !accepted then
    throw (.authenticationFailed target.host credential.username)

/-- Runs a command in a session of its own. -/
def execute (target : Target) (credential : Credential) (command : String) :
    Session Shell.Result := do
  login target credential
  Attempt.request .openChannel fun r => r.mapError (Error.ssh target.host)
  let messages ← Attempt.request (.run command) fun r => r.mapError (Error.ssh target.host)
  Attempt.request .disconnect fun _ => .ok ()
  return resultOf messages

end ChassisAdmin.Remote
