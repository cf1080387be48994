import StreamSource.Hoster.Step
import StreamSource.Manifest.Catalog
import StreamSource.Manifest.Reader
import StreamSource.Registry.Record

/-! Runs over a registry and a hoster: plugins are registered and built, streams are read
through the hoster and offered to the parsers. -/

namespace StreamSource

/-- A registry and the hoster that streams are read through. -/
structure Assembly (σ : Type) where
  registry : Registry σ := .empty
  hoster : Hoster σ := ⟨[], none⟩

namespace Registry

inductive Step (σ : Type)
  | stream (s : Hoster.Step)
  | register (m : PluginManifest) (factory : Option (PluginFactory σ)) (status : PluginStatus)
  | registerText (manifest : String) (factory : Option (PluginFactory σ))
  | registerCatalog (query : String)
  | get (name : String)
  | record (name : String)
  | size
  | enabled (kind : PluginKind)
  | setEnabled (name : String) (on : Bool)
  | refresh (ps : Parameters)
  | host (ps : Parameters)
  | createProtocol (name : String) (ps : Parameters)
  | createProtocols (ps : Parameters)
  | createParser (name : String) (ps : Parameters)
  | detect (ps : Parameters)

inductive Answer (σ : Type)
  | done
  | succeeded
  | stream (a : Hoster.Answer)
  | registered (e : Option (PluginEntry σ))
  | text? (s : Option String)
  | size (n : Nat) (isEmpty : Bool)
  | names (ns : List String)
  | protocol (p : σ)
  | parsed (name version : String) (r : Except Error ParseResult)
  | name? (name : Option String)
  | failed (e : Error)

end Registry

namespace Assembly

open Registry (Step Answer)

variable {σ : Type} [Protocol σ]

/-- Build a parser and let it look at the stream. -/
def parse (a : Assembly σ) (name : String) (ps : Parameters) : Answer σ × Assembly σ :=
  match a.registry.createParser name ps with
  | .error e => (.failed e, a)
  | .ok p =>
    let (r, h) := p.parse a.hoster
    (.parsed p.name p.version r, { a with hoster := h })

def detect (a : Assembly σ) (ps : Parameters) : Answer σ × Assembly σ :=
  match a.registry.detect ps a.hoster with
  | (.ok p, h) => (.name? (p.map (·.name)), { a with hoster := h })
  | (.error e, h) => (.failed e, { a with hoster := h })

def stream (a : Assembly σ) (s : Hoster.Step) : Answer σ × Assembly σ :=
  let (answer, h) := a.hoster.step s
  (.stream answer, { a with hoster := h })

def step (a : Assembly σ) : Step σ → Answer σ × Assembly σ
  | .stream s => a.stream s
  | .register m factory status =>
    (.done, { a with registry := a.registry.register m factory status })
  | .registerText text factory =>
    match PluginManifest.ofText text with
    | .ok m => (.done, { a with registry := a.registry.register m factory })
    | .error e => (.failed e, a)
  | .registerCatalog query =>
    (.done, { a with
      registry := (Catalog.search query).foldl (fun r m => r.register m none) a.registry })
  | .get name => (.registered (a.registry.get? name), a)
  | .record name => (.text? ((a.registry.get? name).map PluginEntry.recordText), a)
  | .size => (.size a.registry.size a.registry.list.isEmpty, a)
  | .enabled kind => (.names ((a.registry.enabled kind).map (·.manifest.name)), a)
  | .setEnabled name on =>
    match a.registry.setEnabled name on with
    | .ok r => (.succeeded, { a with registry := r })
    | .error e => (.failed e, a)
  | .refresh ps => (.done, { a with registry := a.registry.refresh ps })
  | .host ps =>
    let h := a.registry.host ps
    (.names h.names, { a with hoster := h })
  | .createProtocol name ps =>
    match a.registry.createProtocol name ps with
    | .ok p => (.protocol p, a)
    | .error e => (.failed e, a)
  | .createProtocols ps => (.names ((a.registry.createProtocols ps).map Protocol.name), a)
  | .createParser name ps => a.parse name ps
  | .detect ps => a.detect ps

/-- The answers of a run, each with the assembly after the step. -/
def run (a : Assembly σ) : List (Step σ) → List (Answer σ × Assembly σ)
  | [] => []
  | s :: steps => a.step s :: run (a.step s).2 steps

end Assembly

end StreamSource
