import StreamSource.Registry.Basic
import StreamSource.Text.Record

/-! Manifests and entries of the registry as records show them. -/

namespace StreamSource

def PluginStatus.recordText : PluginStatus → String
  | .enabled => "Enabled"
  | .disabled => "Disabled"
  | .notConfigured => "NotConfigured"

def PluginManifest.recordText (m : PluginManifest) : String :=
  Text.showRecord "PluginManifest"
    [("name", Text.quoted m.name), ("version", Text.quoted m.version),
      ("description", Text.quoted m.description), ("kind", m.kind.name),
      ("author", Text.showOption (m.author.map Text.quoted)),
      ("schemes", Text.showList (m.schemes.map Text.quoted)),
      ("required_parameters", Text.showList (m.requiredParameters.map Text.quoted))]

/-- Of the factory only the kind is shown. -/
def PluginEntry.recordText {σ : Type} (e : PluginEntry σ) : String :=
  Text.showRecord "PluginEntry"
    [("manifest", e.manifest.recordText), ("status", e.status.recordText),
      ("factory", Text.showOption (e.factory.map fun f => f.kind.name))]

end StreamSource
