import ChassisAdmin.Files.Path
import ChassisAdmin.Files.Slot
import ChassisAdmin.Remote.Provision
import ChassisAdmin.Store.Database
import ChassisAdmin.Time.DateTime
import ChassisAdmin.Toml.Document

/-!
# The configuration of the library

A configuration says where the databases are, where the platform is described
and how remote units are provisioned.  It is read from a file, in which each of
the three parts is a section.  What the file leaves out, and everything where
there is no file, has a default.  Two of the defaults lie in the home directory.

A section is a table, or a list of its values in a fixed order.  A list may be
shorter than the section, and what goes beyond it is not looked at.  A date in
place of a section leaves every field out.  Names that mean nothing are passed
over, but their values still have to be readable.
-/

namespace ChassisAdmin

/-- Where the databases are. -/
structure DatabaseSettings where
  /-- The server of CONFIG_DB and STATE_DB. -/
  host : String
  /-- The port of that server. -/
  port : Nat
  /-- The number of CONFIG_DB. -/
  configNumber : Nat
  /-- The number of STATE_DB. -/
  stateNumber : Nat
  /-- The server of CHASSIS_STATE_DB. -/
  chassisHost : String
  /-- The port of that server. -/
  chassisPort : Nat
  /-- The number of CHASSIS_STATE_DB. -/
  chassisStateNumber : Nat
  deriving DecidableEq, Repr

/-- Where the platform is described. -/
structure PlatformSettings where
  /-- The directory with a directory for each platform. -/
  deviceDir : String
  /-- The file that names the platform. -/
  machineConf : String
  /-- The platform, where it is given. -/
  platform : Option String
  deriving DecidableEq, Repr

/-- How remote units are provisioned. -/
structure RemoteSettings where
  /-- The credentials file. -/
  passwordFile : String
  /-- The file of the public key. -/
  publicKeyFile : String
  /-- The file of the private key. -/
  privateKeyFile : String
  /-- The time allowed for a connection to come about, in seconds. -/
  connectTimeoutSecs : Nat
  /-- The port of the servers. -/
  port : Nat
  deriving DecidableEq, Repr

/-- A configuration. -/
structure Config where
  /-- Where the databases are. -/
  database : DatabaseSettings
  /-- Where the platform is described. -/
  platform : PlatformSettings
  /-- How remote units are provisioned. -/
  remote : RemoteSettings
  deriving DecidableEq, Repr

namespace Config

/-! ## Defaults -/

/-- The usual path of the configuration file. -/
def usualPath : String := "/etc/sonic/chassis-modules.toml"

/-- The home directory of the user whose home is not known. -/
def unknownHome : String := "/root"

/-- A path in the home directory. -/
def inHome (home : Option String) (path : String) : String :=
  Files.within (home.getD unknownHome) path

/-- The default places of the databases. -/
def usualDatabase : DatabaseSettings :=
  { host := "127.0.0.1"
    port := 6379
    configNumber := Store.Database.config.defaultNumber
    stateNumber := Store.Database.state.defaultNumber
    chassisHost := "redis_chassis.server"
    chassisPort := 6380
    chassisStateNumber := Store.Database.chassisState.defaultNumber }

/-- The default places of the description of the platform. -/
def usualPlatform : PlatformSettings :=
  ⟨"/usr/share/sonic/device", "/host/machine.conf", none⟩

/-- The default way to provision remote units. -/
def usualRemote (home : Option String) : RemoteSettings :=
  { passwordFile := "/etc/sonic/dpu_credentials"
    publicKeyFile := inHome home ".ssh/id_rsa.pub"
    privateKeyFile := inHome home ".ssh/id_rsa"
    connectTimeoutSecs := 10
    port := 22 }

/-- The default configuration of a user with a home directory. -/
def usual (home : Option String) : Config := ⟨usualDatabase, usualPlatform, usualRemote home⟩

/-! ## Reading sections -/

open Toml (Entries Value)

/-- The entries of a section whose fields have the given names, in this order. -/
def sectionEntries (names : List String) : Value → Option Entries
  | .table _ entries =>
      if Toml.entriesReadable (entries.filter fun e => !names.contains e.1) then some entries
      else none
  | .moment => some []
  | .array items => some (names.zip items)
  | .tables items => some (names.zip (items.map fun t => .table .heading t))
  | _ => none

/-- The text of a field. -/
def textField (t : Entries) (name default : String) : Option String :=
  match t.get? name with
  | none => some default
  | some (.text s) => some s
  | some _ => none

/-- The text of a field that may be left out. -/
def optionalField (t : Entries) (name : String) : Option (Option String) :=
  match t.get? name with
  | none => some none
  | some (.text s) => some (some s)
  | some _ => none

/-- The number in a field that takes so many bits. -/
def numberField (bits : Nat) (t : Entries) (name : String) (default : Nat) : Option Nat :=
  match t.get? name with
  | none => some default
  | some (.integer n) => if 0 ≤ n ∧ n < (Nat.pow 2 bits : Nat) then some n.toNat else none
  | some _ => none

/-- Reads the section on databases. -/
def readDatabase (v : Value) : Option DatabaseSettings := do
  let t ← sectionEntries ["redis_host", "redis_port", "config_db", "state_db",
    "chassis_redis_host", "chassis_redis_port", "chassis_state_db"] v
  let d := usualDatabase
  return {
    host := ← textField t "redis_host" d.host
    port := ← numberField 16 t "redis_port" d.port
    configNumber := ← numberField 32 t "config_db" d.configNumber
    stateNumber := ← numberField 32 t "state_db" d.stateNumber
    chassisHost := ← textField t "chassis_redis_host" d.chassisHost
    chassisPort := ← numberField 16 t "chassis_redis_port" d.chassisPort
    chassisStateNumber := ← numberField 32 t "chassis_state_db" d.chassisStateNumber }

/-- Reads the section on the platform. -/
def readPlatform (v : Value) : Option PlatformSettings := do
  let t ← sectionEntries ["device_dir", "machine_conf", "platform"] v
  let d := usualPlatform
  return {
    deviceDir := ← textField t "device_dir" d.deviceDir
    machineConf := ← textField t "machine_conf" d.machineConf
    platform := ← optionalField t "platform" }

/-- Reads the section on remote units. -/
def readRemote (home : Option String) (v : Value) : Option RemoteSettings := do
  let t ← sectionEntries ["password_file", "public_key_file", "private_key_file",
    "connect_timeout_secs", "port"] v
  let d := usualRemote home
  return {
    passwordFile := ← textField t "password_file" d.passwordFile
    publicKeyFile := ← textField t "public_key_file" d.publicKeyFile
    privateKeyFile := ← textField t "private_key_file" d.privateKeyFile
    connectTimeoutSecs := ← numberField 64 t "connect_timeout_secs" d.connectTimeoutSecs
    port := ← numberField 16 t "port" d.port }

/-- Reads a section that may be left out. -/
def sectionOr {α : Type} (t : Entries) (name : String) (read : Value → Option α) (default : α) :
    Option α :=
  match t.get? name with
  | none => some default
  | some v => read v

/-- Reads a configuration from the table of its file. -/
def ofEntries (home : Option String) (t : Entries) : Option Config := do
  let names := ["database", "platform", "dpu_ssh"]
  let t ← sectionEntries names (.table .heading t)
  return {
    database := ← sectionOr t "database" readDatabase usualDatabase
    platform := ← sectionOr t "platform" readPlatform usualPlatform
    remote := ← sectionOr t "dpu_ssh" (readRemote home) (usualRemote home) }

/-! ## Loading -/

/-- The first field whose value makes no sense. -/
def validate (c : Config) : Except SystemError Config :=
  if c.database.port = 0 then .error (.invalidConfig "database.redis_port" "must be non-zero")
  else if c.database.chassisPort = 0 then
    .error (.invalidConfig "database.chassis_redis_port" "must be non-zero")
  else if c.remote.connectTimeoutSecs = 0 then
    .error (.invalidConfig "dpu_ssh.connect_timeout_secs" "must be at least 1")
  else .ok c

/-- The configuration in a text. -/
def ofText (home : Option String) (path content : String) : Except SystemError Config :=
  match (Toml.parse content).bind (ofEntries home) with
  | some c => c.validate
  | none => .error (.invalidConfig path "not a valid configuration")

/-- The configuration in what was found at a path. -/
def ofFile (home : Option String) (path : String) (found : Except FileError (List UInt8)) :
    Except SystemError Config :=
  match found.bind Files.textOf with
  | .ok content => ofText home path content
  | .error .notFound => .ok (usual home)
  | .error cause => .error (.file path cause)

/-- Reads the configuration file of a user with a home directory. -/
def load (home : Option String) (path : String) :
    Attempt Files.Call Files.Answer SystemError Config :=
  Attempt.request (.read path) (ofFile home path)

/-! ## What a configuration says -/

/-- Where a database is. -/
def address (c : Config) : Store.Database → Store.Address
  | .config => ⟨c.database.host, c.database.port, c.database.configNumber, .config⟩
  | .state => ⟨c.database.host, c.database.port, c.database.stateNumber, .state⟩
  | .chassisState =>
      ⟨c.database.chassisHost, c.database.chassisPort, c.database.chassisStateNumber,
        .chassisState⟩

/-- The provisioner of remote units. -/
def provisioner (c : Config) : Remote.Provisioner :=
  { passwordFile := c.remote.passwordFile
    publicKeyFile := c.remote.publicKeyFile
    privateKeyFile := c.remote.privateKeyFile
    connectTimeout := c.remote.connectTimeoutSecs * Time.nanosPerSecond
    port := c.remote.port }

/-- Whether two configurations say the same, where paths that spell the same place count as the
same. -/
def same (c d : Config) : Bool :=
  c.database = d.database && Files.same c.platform.deviceDir d.platform.deviceDir &&
    Files.same c.platform.machineConf d.platform.machineConf &&
    c.platform.platform = d.platform.platform &&
    Files.same c.remote.passwordFile d.remote.passwordFile &&
    Files.same c.remote.publicKeyFile d.remote.publicKeyFile &&
    Files.same c.remote.privateKeyFile d.remote.privateKeyFile &&
    c.remote.connectTimeoutSecs = d.remote.connectTimeoutSecs && c.remote.port = d.remote.port

end Config

end ChassisAdmin
