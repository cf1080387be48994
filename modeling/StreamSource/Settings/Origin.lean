import StreamSource.Found

/-! Where a setting was made: in a TOML text, in a file, in the environment, or in some
other named source. Messages name a key and its origin together; a key of the
environment is shown in capitals, any other under the profile it belongs to. -/

namespace StreamSource

inductive Origin
  | inline
  | file (path shown : String)
  | environment
  | other (source name : String)
  deriving DecidableEq

namespace Origin

def describe : Origin → String
  | .inline => "TOML source string"
  | .file _ shown => shown ++ " TOML file"
  | .environment => "`URLSPLITTER_` environment variable(s)"
  | .other source name => source ++ " " ++ name

def key (path : List String) : Origin → String
  | .environment => ".".intercalate (path.map String.toUpper)
  | _ => ".".intercalate ("default" :: path)

/-- The path of the file, for a setting made in one. -/
def path? : Origin → Option String
  | .file path _ => some path
  | _ => none

end Origin

end StreamSource
