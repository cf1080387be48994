import StreamSource.Settings.Origin

/-! Why settings cannot be read: the cause, the path of the setting and its origin. The
message names the key only where the fault arose while the settings were read. -/

namespace StreamSource

inductive LoadCause
  | malformed
  | unknownField (field : String) (expected : List String)
  | missingField (field : String)
  | wrongType (found : Found) (expected : String)
  | outOfRange (found : Scalar) (expected : String)
  | noVariant (choice : String)
  | duplicateField (field : String)
  | stated (message : String)
  deriving DecidableEq

structure LoadFault where
  cause : LoadCause
  path : List String := []
  origin : Option Origin := none
  namesKey : Bool := true
  deriving DecidableEq

/-- `a`, `a` or `b`, one of `a`, `b`, `c`. -/
def oneOf (names : List String) : String :=
  let marked := names.map fun n => "`" ++ n ++ "`"
  match marked with
  | [] => "none"
  | [a] => a
  | [a, b] => a ++ " or " ++ b
  | ns => "one of " ++ ", ".intercalate ns

def LoadCause.describe : LoadCause → String
  | .malformed => "<TOML syntax error>"
  | .unknownField f expected =>
    "unknown field: found `" ++ f ++ "`, expected `" ++ oneOf expected ++ "`"
  | .missingField f => "missing field `" ++ f ++ "`"
  | .wrongType found expected => "invalid type: found " ++ found.inLayer ++ ", expected " ++ expected
  | .outOfRange found expected => "invalid value " ++ found.inLayer ++ ", expected " ++ expected
  | .noVariant choice => "data did not match any variant of untagged enum " ++ choice
  | .duplicateField f => "duplicate field `" ++ f ++ "`"
  | .stated m => m

namespace LoadFault

/-- The fault of a setting, seen from the table that holds it under `key`. -/
def beneath (f : LoadFault) (key : String) : LoadFault := { f with path := key :: f.path }

def keyPart (f : LoadFault) : String :=
  match f.origin with
  | some o =>
    if f.namesKey ∧ f.path ≠ [] then " for key " ++ Text.quoted (o.key f.path) else ""
  | none => ""

def originPart (f : LoadFault) : String :=
  match f.origin with
  | some o => " in " ++ o.describe
  | none => ""

/-- The message. A text that is no TOML is reported without its place. -/
def describe (f : LoadFault) : String :=
  match f.cause with
  | .malformed => f.cause.describe
  | c => c.describe ++ f.keyPart ++ f.originPart

end LoadFault

end StreamSource
