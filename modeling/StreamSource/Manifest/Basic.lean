import StreamSource.Kind
import StreamSource.Parameters.Basic
import StreamSource.Url

/-! Manifests: what a plugin is, which URLs it serves and which parameters it cannot be
built without. -/

namespace StreamSource

structure PluginManifest where
  name : String
  version : String
  description : String
  kind : PluginKind
  author : Option String := none
  schemes : List String := []
  requiredParameters : List String := []
  deriving DecidableEq

namespace PluginManifest

def serves (m : PluginManifest) (url : String) : Bool := Url.hasScheme m.schemes url

/-- Whether the parameters hold all that the plugin needs. -/
def isSatisfiedBy (m : PluginManifest) (ps : Parameters) : Bool :=
  (ps.missing? m.requiredParameters).isNone

end PluginManifest

end StreamSource
