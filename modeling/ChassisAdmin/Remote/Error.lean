import ChassisAdmin.SystemError

/-!
# Errors of remote provisioning

What can go wrong between this machine and the data processing units it logs in
to: the credentials file, the connection, the login, the remote command, and
whatever fails on this side of the connection.  Times are in nanoseconds and are
reported in whole seconds.
-/

namespace ChassisAdmin.Remote

/-- The whole seconds of a length of time in nanoseconds. -/
def wholeSeconds (t : Nat) : Nat := t / 1000000000

/-- The cause of a failure to provision a remote unit. -/
inductive Error where
  /-- The credentials file could not be written or removed. -/
  | credentials (path message : String)
  /-- The credentials file holds no pair. -/
  | noCredentials (path : String)
  /-- The protocol or the transport failed. -/
  | ssh (host cause : String)
  /-- The connection did not come about in time. -/
  | timeout (host : String) (waited : Nat)
  /-- The server refused the name and the password. -/
  | authenticationFailed (host user : String)
  /-- No pair of the credentials file served. -/
  | allAttemptsFailed (host : String)
  /-- The remote command reported an error. -/
  | remoteCommand (host message : String)
  /-- A local file could not be used. -/
  | file (path : String) (cause : FileError)
  /-- The local system failed. -/
  | system (cause : SystemError)
  deriving DecidableEq, Repr

namespace Error

/-- The wording of a failure. -/
def message : Error → String
  | credentials path message => "Credentials file " ++ path ++ ": " ++ message
  | noCredentials path => "No DPU credentials in " ++ path
  | ssh host cause => "SSH error with " ++ host ++ ": " ++ cause
  | timeout host waited =>
      "SSH connection to " ++ host ++ " timed out after " ++
        Text.decimal (wholeSeconds waited) ++ "s"
  | authenticationFailed host user => "Authentication failed for " ++ user ++ "@" ++ host
  | allAttemptsFailed host => "All authentication attempts failed for " ++ host
  | remoteCommand host message => "Remote command on " ++ host ++ " failed: " ++ message
  | file path cause => "IO error on " ++ path ++ ": " ++ cause.message
  | system cause => cause.message

/-- The wording of the cause that lies below a failure, where there is one. -/
def cause? : Error → Option String
  | ssh _ cause => some cause
  | file _ cause => some cause.message
  | system cause => cause.cause?
  | _ => none

end Error

end ChassisAdmin.Remote
