import ChassisAdmin.SystemError
import ChassisAdmin.Fields
import ChassisAdmin.Text.Escaped

/-!
# What a check can find amiss

Checks compare records of a database, or the commands a service manager was
given, with what is expected.  A mismatch names the place and both sides.
Records and commands are shown with their texts between quotes.
-/

namespace ChassisAdmin.Check

/-- The finding of a check. -/
inductive Mismatch where
  /-- The database could not be read. -/
  | store (cause : SystemError)
  /-- A record is missing. -/
  | recordMissing (rawKey : String)
  /-- A record stands where none is expected. -/
  | recordUnexpected (rawKey : String) (fields : Fields)
  /-- A field is missing. -/
  | fieldMissing (rawKey field : String)
  /-- A record has a field that is not expected. -/
  | fieldUnexpected (rawKey field value : String)
  /-- A field has another value. -/
  | otherValue (rawKey field expected actual : String)
  /-- Another number of raw keys matches a pattern. -/
  | keyCount (pattern : String) (expected actual : Nat)
  /-- The commands are not as expected. -/
  | commands (check : String) (actual : List String)
  deriving DecidableEq, Repr

/-- The wording of a finding. -/
def Mismatch.message : Mismatch → String
  | store cause => "Store error: " ++ cause.message
  | recordMissing rawKey => "Expected record '" ++ rawKey ++ "' not found"
  | recordUnexpected rawKey fields =>
      "Record '" ++ rawKey ++ "' should not exist, found " ++ Text.quotedPairs fields
  | fieldMissing rawKey field => "Expected field '" ++ field ++ "' not found in '" ++ rawKey ++ "'"
  | fieldUnexpected rawKey field value =>
      "Field '" ++ field ++ "' should not be present in '" ++ rawKey ++ "', found '" ++ value ++ "'"
  | otherValue rawKey field expected actual =>
      "Value mismatch for " ++ rawKey ++ ":" ++ field ++ ": expected '" ++ expected ++
        "', got '" ++ actual ++ "'"
  | keyCount pattern expected actual =>
      "Expected " ++ Text.decimal expected ++ " keys matching pattern '" ++ pattern ++
        "', found " ++ Text.decimal actual
  | commands check actual =>
      "Command check '" ++ check ++ "' failed for " ++ Text.quotedList actual

end ChassisAdmin.Check
