import ChassisAdmin.Remote.Session
import ChassisAdmin.Text.Split

/-!
# Scripted servers

A network of servers that play a script.  A session goes to the first server
that fits its target.  The server may fail at any step, never complete a
connection, know some users, and has messages ready for the commands that
contain a given text.  Where no server fits, the connection is refused.  Time
passes only while a connection hangs.
-/

namespace ChassisAdmin.Simulation

open Remote

/-- How a server meets a connection. -/
inductive Greeting where
  /-- The connection comes about. -/
  | accept
  /-- The connection never completes. -/
  | hang
  /-- The connection fails. -/
  | fail (cause : String)

/-- The messages that a command is answered with. -/
structure Reaction where
  /-- A text in the command. -/
  containing : String
  /-- The messages. -/
  messages : List Message

/-- A scripted server. -/
structure Server where
  /-- The address it has, or any. -/
  host : Option String
  /-- The port it has, or any. -/
  port : Option Nat
  /-- How it meets a connection. -/
  greeting : Greeting
  /-- The failure of the login. -/
  authenticationFailure : Option String
  /-- The failure of the channel. -/
  channelFailure : Option String
  /-- The failure of the command. -/
  commandFailure : Option String
  /-- The users and their passwords. -/
  users : List (String × String)
  /-- The reactions to commands.  The first that fits counts. -/
  reactions : List Reaction

namespace Server

/-- Whether a session to a target goes to the server. -/
def fits (s : Server) (t : Target) : Bool := s.host.all (· == t.host) && s.port.all (· == t.port)

/-- Whether the server knows a user by a password. -/
def knows (s : Server) (c : Credential) : Bool :=
  (s.users.find? (·.1 == c.username)).any (·.2 == c.password)

/-- The messages on the channel of a command. -/
def messages (s : Server) (command : String) : List Message :=
  ((s.reactions.find? fun r => Text.contains command r.containing).map (·.messages)).getD []

end Server

/-- A network of scripted servers. -/
structure Network where
  /-- The servers. -/
  servers : List Server
  /-- The server of the session under way. -/
  connected : Option Server
  /-- The time that has passed, in nanoseconds. -/
  time : Nat

namespace Network

/-- A network with no session under way. -/
def idle (servers : List Server) : Network := ⟨servers, none, 0⟩

/-- The failure of a connection to which nobody listens. -/
def refused : String := "Connection refused (os error 111)"

/-- The failure of a step outside a session. -/
def disconnected : String := "Disconnected"

/-- Fails with a cause, if there is one. -/
def orFail {α : Type} (failure : Option String) (a : α) : Except String α :=
  match failure with
  | some cause => .error cause
  | none => .ok a

/-- Answers a connection. -/
def connect (t : Target) (n : Network) : Except ConnectFailure Unit × Network :=
  match n.servers.find? (·.fits t) with
  | none => (.error (.failed refused), n)
  | some s =>
      match s.greeting with
      | .accept => (.ok (), { n with connected := some s })
      | .hang => (.error .timedOut, { n with time := n.time + t.connectTimeout })
      | .fail cause => (.error (.failed cause), n)

/-- Answers a step by the server of the session under way. -/
def byServer {α : Type} (n : Network) (f : Server → Except String α) : Except String α :=
  match n.connected with
  | some s => f s
  | none => .error disconnected

/-- Answers a step of a session. -/
def answer : (c : Call) → Network → c.Answer × Network
  | .connect t, n => connect t n
  | .authenticate c, n => (n.byServer fun s => orFail s.authenticationFailure (s.knows c), n)
  | .openChannel, n => (n.byServer fun s => orFail s.channelFailure (), n)
  | .run command, n => (n.byServer fun s => orFail s.commandFailure (s.messages command), n)
  | .disconnect, n => (.ok (), { n with connected := none })

/-- Runs a session. -/
def run {α : Type} (p : Session α) (n : Network) : Except Error α × Network :=
  Attempt.runWith answer p { n with connected := none }

end Network

end ChassisAdmin.Simulation
