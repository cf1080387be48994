import StreamSource.Found
import StreamSource.Kind
import StreamSource.Version

/-! The errors of the library. Each constructor is a cause and keeps what the cause
is about; the wording of all of them is `Error.message`. A `stated` cause carries
the words of someone else. -/

namespace StreamSource

/-- Why the text of a manifest is none. -/
inductive ManifestFault
  | malformed
  | missingField (field : String)
  | wrongType (found : Found) (expected : String)
  | tooShort (length : Nat)
  | emptyName
  | badVersion (version : String) (fault : Version.Fault)
  | unknownKind (kind : String)
  deriving DecidableEq

inductive Misconfiguration
  | parametersRequired
  | hosterRequired
  | notEnabled (plugin : String) (status : PluginStatus)
  | noFactory (kind : PluginKind) (plugin : String)
  | manifest (fault : ManifestFault)
  | malformedAssignments (count : Nat)
  | stated (message : String)
  deriving DecidableEq

/-- The calls that a protocol answers. -/
inductive StreamCall
  | openUrl
  | read
  | seek
  | close
  deriving DecidableEq

inductive StreamFault
  | streamNotOpen
  | notOpen
  | refused (protocol url : String)
  | failed (protocol : String) (call : StreamCall)
  | truncatedHeader
  | stated (message : String)
  deriving DecidableEq

inductive InternalFault
  | refused (plugin : String)
  | stated (message : String)
  deriving DecidableEq

inductive Error
  | configuration (cause : Misconfiguration)
  | missingParameter (name : String)
  | cloneUnsupported (index : Nat) (itemType : String)
  | pluginNotFound (kind name : String)
  | noActiveProtocol
  | protocol (fault : StreamFault)
  | resolve (host reason : String)
  | internal (fault : InternalFault)
  deriving DecidableEq

def ManifestFault.message : ManifestFault → String
  | .malformed => "invalid plugin manifest: <TOML syntax error>"
  | .missingField f => "invalid plugin manifest: missing field `" ++ f ++ "`"
  | .wrongType found expected =>
    "invalid plugin manifest: invalid type: " ++ found.inManifest ++ ", expected " ++ expected
  | .tooShort n =>
    "invalid plugin manifest: invalid length " ++ Text.showNat n
      ++ ", expected struct PluginSection with 7 elements"
  | .emptyName => "plugin manifest: name must not be empty"
  | .badVersion v fault =>
    "plugin manifest: invalid version '" ++ v ++ "': " ++ fault.message
  | .unknownKind k =>
    "plugin manifest: invalid kind '" ++ k ++ "'. Expected one of: Protocol, Parser"

def Misconfiguration.message : Misconfiguration → String
  | .parametersRequired => "plugin configuration requires parameters"
  | .hosterRequired => "plugin configuration requires a protocol hoster"
  | .notEnabled plugin status => "plugin `" ++ plugin ++ "` is " ++ status.name
  | .noFactory .protocol plugin => "protocol plugin `" ++ plugin ++ "` has no factory"
  | .noFactory .parser plugin => "parser plugin `" ++ plugin ++ "` has no factory"
  | .manifest fault => fault.message
  | .malformedAssignments n => Text.showNat n ++ " invalid --set assignment(s)"
  | .stated m => m

def StreamCall.name : StreamCall → String
  | .openUrl => "open"
  | .read => "read"
  | .seek => "seek"
  | .close => "close"

def StreamFault.message : StreamFault → String
  | .streamNotOpen => "stream not open"
  | .notOpen => "not open"
  | .refused protocol url => protocol ++ " refused " ++ url
  | .failed protocol call => protocol ++ " " ++ call.name ++ " failed"
  | .truncatedHeader => "truncated header"
  | .stated m => m

def InternalFault.message : InternalFault → String
  | .refused plugin => plugin ++ " refused"
  | .stated m => m

/-- The text of a failed look-up up to the reason. -/
def unresolved (host : String) : String := "cannot resolve `" ++ host ++ "`"

def Error.message : Error → String
  | .configuration cause => "configuration error: " ++ cause.message
  | .missingParameter name => "missing required parameter `" ++ name ++ "`"
  | .cloneUnsupported index itemType =>
    "item " ++ Text.showNat index ++ " (" ++ itemType ++ ") does not support cloning"
  | .pluginNotFound kind name => "plugin not found: " ++ kind ++ "/" ++ name
  | .noActiveProtocol => "no active protocol"
  | .protocol fault => "protocol error: " ++ fault.message
  | .resolve host reason => unresolved host ++ ": " ++ reason
  | .internal fault => "internal error: " ++ fault.message

end StreamSource
