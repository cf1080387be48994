import StreamSource.Settings.Basic
import StreamSource.Url

/-! What settings must satisfy beyond their types. The rules are independent of each
other, and every violation is reported, in the order of the rules. -/

namespace StreamSource

inductive Violation
  | logLevel (level : String)
  | openConnectionTimeout
  | totalReopenConnectionTimeout
  | httpVersion (version : String)
  | credentials
  | notAbsolute (key url : String)
  | manifestAlone
  | parameterName (name : String)
  | blankPluginName
  deriving DecidableEq

def logLevels : List String := ["trace", "debug", "info", "warn", "error"]

def Violation.message : Violation → String
  | .logLevel level =>
    "logging.level `" ++ level ++ "` must be one of: " ++ ", ".intercalate logLevels
  | .openConnectionTimeout => "http.open_connection_timeout_ms must be positive"
  | .totalReopenConnectionTimeout => "http.total_reopen_connection_timeout_ms must be positive"
  | .httpVersion v => "http.version `" ++ v ++ "` must be \"1.0\" or \"1.1\""
  | .credentials => "http.server_user_name and http.server_password must be set together"
  | .notAbsolute key url => key ++ " `" ++ url ++ "` is not an absolute URL"
  | .manifestAlone => "mshs.manifest requires mshs.base_url"
  | .parameterName name =>
    "parameter name `" ++ name ++ "` must be non-empty without whitespace"
  | .blankPluginName => "plugins.disabled must not contain empty names"

namespace Settings

/-- A name that a parameter may have. -/
def isParameterName (name : String) : Bool :=
  !name.toList.isEmpty && !name.toList.any Text.isBlank

def violationIf (p : Prop) [Decidable p] (v : Violation) : List Violation :=
  if p then [v] else []

def urlViolations (key : String) : Option String → List Violation
  | some url => violationIf (Url.isAbsolute url = false) (.notAbsolute key url)
  | none => []

def versionViolations : Option String → List Violation
  | some v => violationIf (v ≠ "1.0" ∧ v ≠ "1.1") (.httpVersion v)
  | none => []

def nameViolations (ps : NameMap ParameterValue) : List Violation :=
  (ps.names.filter fun n => !isParameterName n).map .parameterName

def violations (s : Settings) : List Violation :=
  violationIf (s.logging.level ∉ logLevels) (.logLevel s.logging.level)
    ++ violationIf (s.http.openConnectionTimeout = 0) .openConnectionTimeout
    ++ violationIf (s.http.totalReopenConnectionTimeout = 0) .totalReopenConnectionTimeout
    ++ versionViolations s.http.version
    ++ violationIf (s.http.serverUserName.isSome ≠ s.http.serverPassword.isSome) .credentials
    ++ urlViolations "mshs.base_url" s.mshs.baseUrl
    ++ urlViolations "mshs.manifest" s.mshs.manifest
    ++ violationIf (s.mshs.manifest.isSome ∧ s.mshs.baseUrl.isNone) .manifestAlone
    ++ nameViolations s.parameters
    ++ violationIf (s.plugins.disabled.any fun n => Text.allBlank n.toList) .blankPluginName

end Settings

end StreamSource
