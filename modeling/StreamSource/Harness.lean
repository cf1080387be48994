import StreamSource.Parser.Marker
import StreamSource.Protocol.Memory
import StreamSource.Registry.Step
import StreamSource.Settings.Basic

/-! A harness: memory protocols and marker parsers wired together by settings, as plugins
are at startup. The overrides are laid over the parameters of the settings, the
plugins that the settings disable are disabled, and the hoster gets every protocol
that can then be built. -/

namespace StreamSource

structure MemoryPlugin where
  name : String
  schemes : List String := []
  required : List String := []
  body : Bytes := []

structure MarkerPlugin where
  name : String
  required : List String := []
  marker : Bytes := []

/-- A plugin of either kind. -/
inductive HarnessPlugin
  | protocol (p : MemoryPlugin)
  | parser (p : MarkerPlugin)

/-- What a harness is built from, the plugins in the order in which they are registered. -/
structure HarnessDraft where
  settings : Settings := {}
  overrides : Parameters := .empty
  plugins : List HarnessPlugin := []

/-- A draft in which the protocols come before the parsers. -/
structure HarnessPlan where
  settings : Settings := {}
  overrides : Parameters := .empty
  protocols : List MemoryPlugin := []
  parsers : List MarkerPlugin := []

structure Harness extends Assembly MemoryProtocol where
  parameters : Parameters

namespace MemoryPlugin

def manifest (p : MemoryPlugin) : PluginManifest :=
  { name := p.name, version := "0.1.0", description := "test Protocol " ++ p.name,
    kind := .protocol, schemes := p.schemes, requiredParameters := p.required }

def factory (p : MemoryPlugin) : PluginFactory MemoryProtocol :=
  .protocol (MemoryProtocol.create p.name p.schemes p.body)

end MemoryPlugin

namespace MarkerPlugin

def manifest (p : MarkerPlugin) : PluginManifest :=
  { name := p.name, version := "0.1.0", description := "test Parser " ++ p.name,
    kind := .parser, requiredParameters := p.required }

def factory (p : MarkerPlugin) : PluginFactory MemoryProtocol :=
  .parser (MarkerParser.create p.name p.marker)

end MarkerPlugin

namespace HarnessPlugin

def manifest : HarnessPlugin → PluginManifest
  | .protocol p => p.manifest
  | .parser p => p.manifest

def factory : HarnessPlugin → PluginFactory MemoryProtocol
  | .protocol p => p.factory
  | .parser p => p.factory

end HarnessPlugin

namespace HarnessDraft

def register (r : Registry MemoryProtocol) (p : HarnessPlugin) : Registry MemoryProtocol :=
  r.register p.manifest (some p.factory)

def registered (d : HarnessDraft) : Registry MemoryProtocol := d.plugins.foldl register .empty

/-- The registry with the plugins disabled that the settings disable. -/
def registry (d : HarnessDraft) : Except Error (Registry MemoryProtocol) :=
  d.settings.plugins.disabled.foldlM (fun r name => r.setEnabled name false) d.registered

def parameters (d : HarnessDraft) : Parameters := d.settings.layered d.overrides

def build (d : HarnessDraft) : Except Error Harness :=
  d.registry.map fun r =>
    { registry := r, hoster := r.host d.parameters, parameters := d.parameters }

end HarnessDraft

namespace HarnessPlan

def draft (plan : HarnessPlan) : HarnessDraft :=
  { settings := plan.settings, overrides := plan.overrides,
    plugins := plan.protocols.map .protocol ++ plan.parsers.map .parser }

def build (plan : HarnessPlan) : Except Error Harness := plan.draft.build

end HarnessPlan

namespace Harness

inductive Step
  | stream (s : Hoster.Step)
  | detect
  | parse (name : String)

def step (h : Harness) : Step → Registry.Answer MemoryProtocol × Harness
  | .stream s => (h.toAssembly.stream s).map id fun a => { h with toAssembly := a }
  | .detect => (h.toAssembly.detect h.parameters).map id fun a => { h with toAssembly := a }
  | .parse name =>
    (h.toAssembly.parse name h.parameters).map id fun a => { h with toAssembly := a }

/-- The answers of a run, each with the harness after the step. -/
def run (h : Harness) : List Step → List (Registry.Answer MemoryProtocol × Harness)
  | [] => []
  | s :: steps => h.step s :: run (h.step s).2 steps

end Harness

end StreamSource
