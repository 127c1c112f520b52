import ChassisAdmin.Config
import ChassisAdmin.Json
import ChassisAdmin.Keyed
import ChassisAdmin.Platform.Info

/-!
# Detecting the platform

The name of the platform is given by the configuration, else by the environment,
else by a line of a file that is put on the machine when it is installed.  A
platform without a name is a chassis without DPUs.

The directory of the platform has up to two files.  One describes the platform
in JSON.  It lists the DPUs as the names of an object's members and says whether
this machine is a DPU.  The other lists the interfaces that lead to the other
cards.  A file that is missing says nothing, and one that cannot be read is an
error.

The names of DPUs are put in order by what stands before the digits at their end
and then by the number these make, so `DPU2` comes before `DPU10`.  Names that
agree in both keep the order of their spelling in the file.
-/

namespace ChassisAdmin.Platform

/-! ## The DPUs of a platform -/

/-- The greatest number at the end of a name that counts.  A greater one counts as 0. -/
def maxIndex : Nat := 4294967295

/-- What stands before the digits at the end of a name. -/
def nameStem (name : String) : String :=
  String.ofList (Text.beforeTrailingRun Char.isDigit name.toList)

/-- The number that the digits at the end of a name make, or 0. -/
def nameIndex (name : String) : Nat :=
  ((Text.natOfDigits (Text.trailingRun Char.isDigit name.toList)).filter (· ≤ maxIndex)).getD 0

/-- Whether one name may stand before another. -/
def mayPrecede (a b : String) : Bool :=
  nameStem a < nameStem b || (nameStem a == nameStem b && nameIndex a ≤ nameIndex b)

/-- The names of DPUs in order, from their spellings. -/
def orderedNames (spellings : List String) : List String :=
  ((Keyed.ofList (spellings.map fun s => (s, ()))).keys.map Text.upperCase).mergeSort mayPrecede

/-- What the description of a platform adds to what is known of it. -/
def describe (p : Platform) (v : Json.Value) : Platform :=
  let p := { p with isDpu := (v.member? "DPU").any (·.isObject) }
  match (v.member? "DPUS").bind (·.members?) with
  | some members =>
      let dpus := orderedNames (members.map (·.1))
      { p with dpus, smartswitch := !dpus.isEmpty }
  | none => p

/-! ## Lines of text files -/

/-- The value of a line that names the platform. -/
def nameInLine (line : List Char) : Option String := do
  let (key, value) ← Text.splitOnce '=' (Text.trim line)
  let key := String.ofList key
  if (key = "onie_platform" ∨ key = "aboot_platform") ∧ value ≠ [] then some (String.ofList value)
  else none

/-- The platform that a file on the machine names, by its first line that does. -/
def nameInMachineConf (content : String) : Option String :=
  (Text.lines content.toList).findSome? nameInLine

/-- The word in the line that lists interfaces. -/
def interfacesWord : String := "chassis_internal_intfs"

/-- The items of a list with commas, trimmed, without those that are empty. -/
def listItems (cs : List Char) : List String :=
  (((Text.pieces ',' cs).map Text.trim).filter (!·.isEmpty)).map String.ofList

/-- The interfaces that a file lists.  The first line in which the word occurs counts, and in it
what stands after the first equals sign. -/
def interfacesIn (content : String) : List String :=
  match ((Text.lines content.toList).map Text.trim).find? (Text.occursIn interfacesWord.toList) with
  | some line =>
      match Text.splitOnce '=' line with
      | some (_, value) => listItems value
      | none => []
  | none => []

/-! ## Detection -/

/-- A part of detection. -/
abbrev Detection (α : Type) : Type := Attempt Files.Call Files.Answer SystemError α

/-- The text of a file that may be missing. -/
def optionalText (path : String) (found : Except FileError (List UInt8)) :
    Except SystemError (Option String) :=
  match found.bind Files.textOf with
  | .ok s => .ok (some s)
  | .error .notFound => .ok none
  | .error cause => .error (.file path cause)

/-- Reads a file that may be missing. -/
def readOptional (path : String) : Detection (Option String) :=
  Attempt.request (.read path) (optionalText path)

/-- The name that the environment gives, which has to be non-empty text. -/
def nameInEnvironment (value : Option (List UInt8)) : Option String :=
  (value.bind Text.Utf8.decode).filter (· ≠ "")

/-- The name of the platform. -/
def detectName (c : PlatformSettings) (environment : Option (List UInt8)) :
    Detection (Option String) :=
  match c.platform <|> nameInEnvironment environment with
  | some name => return some name
  | none => return (← readOptional c.machineConf).bind nameInMachineConf

/-- The file of a platform's directory that describes the platform. -/
def descriptionFile : String := "platform.json"

/-- The file of a platform's directory that lists interfaces. -/
def interfacesFile : String := "chassisdb.conf"

/-- Detects the platform, which the environment may name. -/
def detect (c : PlatformSettings) (environment : Option (List UInt8)) : Detection Platform := do
  match ← detectName c environment with
  | none => return standard
  | some name =>
      let dir := Files.within c.deviceDir name
      let p := { standard with name := some name }
      let path := Files.within dir descriptionFile
      let p ← match ← readOptional path with
        | none => pure p
        | some content =>
            match Json.parse content with
            | some v => pure (p.describe v)
            | none => throw (.platform path "malformed description")
      match ← readOptional (Files.within dir interfacesFile) with
      | none => return p
      | some content => return { p with localInterfaces := interfacesIn content }

end ChassisAdmin.Platform
