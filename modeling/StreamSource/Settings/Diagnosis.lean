import StreamSource.Settings.Fault
import StreamSource.Settings.KeyPosition
import StreamSource.Settings.Validation
import StreamSource.Text.Similarity

/-! What the author of the settings is told. A fault of loading is diagnosed with the
help of the texts that were read: an unknown key is shown where it stands, in the
file it came from or, when it came from no file, in the only text there is. -/

namespace StreamSource

/-- A text that settings were read from, and its name in reports. -/
structure SourceText where
  name : String
  content : String
  deriving DecidableEq

/-- Some bytes of a source text. -/
structure Span where
  source : String
  offset : Nat
  length : Nat
  deriving DecidableEq

inductive Diagnosis
  | unknownKey (key : String) (valid : List String) (span : Option Span)
  | wrongType (path : List String) (found : Found) (expected : String)
  | missingKey (key : String)
  | violation (v : Violation)
  | assignment (input : String)
  | other (fault : LoadFault)
  deriving DecidableEq

namespace Diagnosis

/-- The text in which a fault is looked for. -/
def sourceOf? (sources : List SourceText) (f : LoadFault) : Option SourceText :=
  match f.origin.bind Origin.path? with
  | some path => sources.find? fun s => s.name = path
  | none =>
    match sources with
    | [s] => some s
    | _ => none

/-- Where the key `key` of a fault stands. -/
def span? (sources : List SourceText) (f : LoadFault) (key : String) : Option Span :=
  (sourceOf? sources f).bind fun s =>
    (KeyPosition.offset? s.content f.path key).map fun offset =>
      ⟨s.name, offset, KeyPosition.size key.toList⟩

def ofFault (sources : List SourceText) (f : LoadFault) : Diagnosis :=
  match f.cause with
  | .unknownField key valid => .unknownKey key valid (span? sources f key)
  | .missingField key => .missingKey key
  | .wrongType found expected => .wrongType f.path found expected
  | _ => .other f

def keyText (path : List String) : String := ".".intercalate path

def validText (valid : List String) : String := ", ".intercalate valid

/-- What was found, and what was expected. -/
def typeDetail (found : Found) (expected : String) : String :=
  "found " ++ found.inLayer ++ ", expected " ++ expected

/-- The valid key that an unknown one may have been meant for. -/
def suggestion? : Diagnosis → Option String
  | .unknownKey key valid _ => Text.closest? key valid
  | _ => none

def message : Diagnosis → String
  | .unknownKey key _ _ => "unknown configuration key `" ++ key ++ "`"
  | .wrongType path found expected =>
    "invalid type for key `" ++ keyText path ++ "`: " ++ typeDetail found expected
  | .missingKey key => "missing required key `" ++ key ++ "`"
  | .violation v => "validation error: " ++ v.message
  | .assignment input => "invalid parameter assignment `" ++ input ++ "`"
  | .other f => "configuration error: " ++ f.describe

def code : Diagnosis → String
  | .unknownKey .. => "urlsplitter::config::unknown_key"
  | .wrongType .. => "urlsplitter::config::invalid_type"
  | .missingKey _ => "urlsplitter::config::missing_key"
  | .violation _ => "urlsplitter::config::validation"
  | .assignment _ => "urlsplitter::config::assignment"
  | .other _ => "urlsplitter::config::other"

def help? : Diagnosis → Option String
  | .unknownKey key valid _ =>
    some (match Text.closest? key valid with
      | some s => "did you mean `" ++ s ++ "`? Valid keys: " ++ validText valid
      | none => "valid keys: " ++ validText valid)
  | .wrongType _ _ expected => some ("expected " ++ expected)
  | .missingKey key => some ("add `" ++ key ++ " = <value>` to your urlsplitter.toml")
  | .assignment _ => some "use NAME=VALUE, e.g. HttpUserAgent=Mozilla/5.0"
  | .violation _ | .other _ => none

end Diagnosis

end StreamSource
