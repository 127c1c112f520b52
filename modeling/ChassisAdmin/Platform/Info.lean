import ChassisAdmin.Module.Error
import ChassisAdmin.Text.UpperCase

/-!
# Platforms

What the library knows of the platform it runs on: whether it is a smartswitch,
a chassis that hosts data processing units (DPUs), and which.  The names of DPUs
are in upper case.  Operators name a DPU without regard to the case of ASCII
letters, and the word `all` selects every one.
-/

namespace ChassisAdmin

/-- The platform a chassis runs on. -/
structure Platform where
  /-- The name of the platform, where it is known. -/
  name : Option String
  /-- Whether the platform hosts DPUs. -/
  smartswitch : Bool
  /-- Whether this machine is itself a DPU. -/
  isDpu : Bool
  /-- The names of the DPUs. -/
  dpus : List String
  /-- The interfaces that lead to the other cards of the chassis. -/
  localInterfaces : List String
  deriving DecidableEq, Repr

namespace Platform

/-- A chassis without DPUs. -/
def standard : Platform := ⟨none, false, false, [], []⟩

/-- A smartswitch with the given DPUs. -/
def ofDpus (dpus : List String) : Platform :=
  { standard with smartswitch := true, dpus := dpus.map Text.upperCase }

/-- The word that selects every DPU. -/
def allDpus : String := "all"

/-- The number of DPUs. -/
def numDpus (p : Platform) : Nat := p.dpus.length

/-- What an operator may give where DPUs are asked for. -/
def dpuOptions (p : Platform) : List String := p.dpus ++ [allDpus]

/-- The DPU an operator means by a name. -/
def findDpu (p : Platform) (name : String) : Option String :=
  p.dpus.find? fun d => Text.equalIgnoringCase d name

/-- The DPUs an operator means by an argument. -/
def selectDpus (p : Platform) (arg : String) : Except ChassisError (List String) :=
  if Text.equalIgnoringCase arg allDpus then .ok p.dpus
  else
    match p.findDpu arg with
    | some d => .ok [d]
    | none => .error (.unknownDpu arg p.dpuOptions)

end Platform

end ChassisAdmin
