import StreamSource.Names
import StreamSource.NameMap
import StreamSource.Parameters.Basic

/-! The settings: how much is logged, how HTTP and smooth streaming connect, which
plugins are off, and parameters in free form. They make the parameters that the
plugins are configured with, the free ones overriding the others. -/

namespace StreamSource

structure LoggingSettings where
  level : String := "info"
  deriving DecidableEq

structure HttpSettings where
  userAgent : Option String := none
  referer : Option String := none
  cookie : Option String := none
  version : Option String := none
  ignoreContentLength : Bool := false
  openConnectionTimeout : UInt32 := 20000
  openConnectionSleepTime : UInt32 := 0
  totalReopenConnectionTimeout : UInt32 := 60000
  serverUserName : Option String := none
  serverPassword : Option String := none
  deriving DecidableEq

structure MshsSettings where
  baseUrl : Option String := none
  manifest : Option String := none
  deriving DecidableEq

structure PluginSettings where
  disabled : List String := []
  deriving DecidableEq

structure Settings where
  logging : LoggingSettings := {}
  http : HttpSettings := {}
  mshs : MshsSettings := {}
  plugins : PluginSettings := {}
  parameters : NameMap ParameterValue := .empty

def optionalText (name : String) (s : Option String) : List (String × ParameterValue) :=
  (s.map fun t => (name, ParameterValue.text t)).toList

def word (n : UInt32) : ParameterValue := .integer (Int64.ofNat n.toNat)

def HttpSettings.toPairs (h : HttpSettings) : List (String × ParameterValue) :=
  optionalText Names.httpUserAgent h.userAgent
    ++ optionalText Names.httpReferer h.referer
    ++ optionalText Names.httpCookie h.cookie
    ++ optionalText Names.httpVersion h.version
    ++ optionalText Names.httpServerUserName h.serverUserName
    ++ optionalText Names.httpServerPassword h.serverPassword
    ++ [(Names.httpIgnoreContentLength, .boolean h.ignoreContentLength),
      (Names.httpOpenConnectionTimeout, word h.openConnectionTimeout),
      (Names.httpOpenConnectionSleepTime, word h.openConnectionSleepTime),
      (Names.httpTotalReopenConnectionTimeout, word h.totalReopenConnectionTimeout)]
    ++ if h.serverUserName.isSome then [(Names.httpServerAuthenticate, .boolean true)] else []

def MshsSettings.toPairs (m : MshsSettings) : List (String × ParameterValue) :=
  optionalText Names.mshsBaseUrl m.baseUrl ++ optionalText Names.mshsManifest m.manifest

namespace Settings

/-- The parameters that plugins are configured with. -/
def toParameters (s : Settings) : Parameters :=
  ((Parameters.ofPairs s.http.toPairs).merge (.ofPairs s.mshs.toPairs) true).merge
    (.ofPairs s.parameters.entries) true

/-- The parameters with others laid over them. -/
def layered (s : Settings) (overrides : Parameters) : Parameters :=
  s.toParameters.merge overrides true

end Settings

end StreamSource
