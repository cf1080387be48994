import StreamSource.Hoster.Basic
import StreamSource.Manifest.Basic
import StreamSource.NameMap
import StreamSource.Parser.Basic

/-! The registry of plugins. An entry has a manifest, a status and maybe a factory, and is
kept under the name in its manifest; a later entry of the same name replaces it. Only
enabled plugins are built, and only from parameters that hold all they require. Of
the parsers that can be built, the first in the order of the names that recognises a
stream is detected. -/

namespace StreamSource

inductive PluginFactory (σ : Type)
  | protocol (create : Parameters → Except Error σ)
  | parser (create : Parameters → Except Error (StreamParser (Hoster σ)))

def PluginFactory.kind {σ : Type} : PluginFactory σ → PluginKind
  | .protocol _ => .protocol
  | .parser _ => .parser

structure PluginEntry (σ : Type) where
  manifest : PluginManifest
  status : PluginStatus
  factory : Option (PluginFactory σ)

/-- The status once it is known whether all required parameters are there. A disabled
plugin stays disabled. -/
def PluginStatus.refreshed (satisfied : Bool) : PluginStatus → PluginStatus
  | .enabled => if satisfied then .enabled else .notConfigured
  | .notConfigured => if satisfied then .enabled else .notConfigured
  | .disabled => .disabled

namespace PluginEntry

variable {σ : Type}

def refreshed (ps : Parameters) (e : PluginEntry σ) : PluginEntry σ :=
  { e with status := e.status.refreshed (e.manifest.isSatisfiedBy ps) }

end PluginEntry

structure Registry (σ : Type) where
  entries : NameMap (PluginEntry σ)

namespace Registry

variable {σ : Type}

def empty : Registry σ := ⟨.empty⟩

/-- A factory of the other kind than the manifest's is dropped. -/
def register (r : Registry σ) (m : PluginManifest) (factory : Option (PluginFactory σ))
    (status : PluginStatus := .enabled) : Registry σ :=
  ⟨r.entries.insert m.name ⟨m, status, factory.filter fun f => f.kind = m.kind⟩⟩

def get? (r : Registry σ) (name : String) : Option (PluginEntry σ) := r.entries.get? name

/-- All entries, in the order of their names. -/
def list (r : Registry σ) : List (PluginEntry σ) := r.entries.values

def size (r : Registry σ) : Nat := r.list.length

/-- The enabled entries of a kind, in the order of their names. -/
def enabled (r : Registry σ) (kind : PluginKind) : List (PluginEntry σ) :=
  r.list.filter fun e => e.status = .enabled ∧ e.manifest.kind = kind

def setEnabled (r : Registry σ) (name : String) (on : Bool) : Except Error (Registry σ) :=
  match r.get? name with
  | some e =>
    .ok ⟨r.entries.insert name { e with status := if on then .enabled else .disabled }⟩
  | none => .error (.pluginNotFound "unknown" name)

/-- Tell the configured plugins from the others, by the parameters that they require. -/
def refresh (r : Registry σ) (ps : Parameters) : Registry σ :=
  ⟨r.entries.map (·.refreshed ps)⟩

/-- The enabled entry of a name and kind. -/
def lookup (r : Registry σ) (name : String) (kind : PluginKind) :
    Except Error (PluginEntry σ) :=
  match r.get? name with
  | none => .error (.pluginNotFound kind.name name)
  | some e =>
    if e.manifest.kind ≠ kind then .error (.pluginNotFound kind.name name)
    else if e.status ≠ .enabled then .error (.configuration (.notEnabled name e.status))
    else .ok e

def createProtocol (r : Registry σ) (name : String) (ps : Parameters) : Except Error σ := do
  let e ← r.lookup name .protocol
  match e.factory with
  | some (.protocol create) =>
    ps.require e.manifest.requiredParameters
    create ps
  | _ => .error (.configuration (.noFactory .protocol name))

def createParser (r : Registry σ) (name : String) (ps : Parameters) :
    Except Error (StreamParser (Hoster σ)) := do
  let e ← r.lookup name .parser
  match e.factory with
  | some (.parser create) =>
    ps.require e.manifest.requiredParameters
    create ps
  | _ => .error (.configuration (.noFactory .parser name))

/-- The enabled entries of a kind that have a factory. -/
def candidates (r : Registry σ) (kind : PluginKind) : List (PluginEntry σ) :=
  (r.enabled kind).filter fun e => e.factory.isSome

/-- Every protocol that can be built, in the order of the names. -/
def createProtocols (r : Registry σ) (ps : Parameters) : List σ :=
  (r.candidates .protocol).filterMap fun e => (r.createProtocol e.manifest.name ps).toOption

/-- A hoster of every protocol that can be built. -/
def host (r : Registry σ) (ps : Parameters) : Hoster σ := ⟨r.createProtocols ps, none⟩

/-- Offer the stream to one parser after the other. One that lacks a parameter is passed
over, one that cannot be built for any other reason ends the detection. -/
def detectAmong (r : Registry σ) (ps : Parameters) :
    List (PluginEntry σ) → Hoster σ → Outcome (Hoster σ) (Option (StreamParser (Hoster σ)))
  | [], h => (.ok none, h)
  | e :: es, h =>
    match r.createParser e.manifest.name ps with
    | .error (.missingParameter _) => detectAmong r ps es h
    | .error err => (.error err, h)
    | .ok p =>
      match p.parse h with
      | (.ok (.recognized _), h) => (.ok (some p), h)
      | (_, h) => detectAmong r ps es h

/-- The first parser that recognises the stream. -/
def detect (r : Registry σ) (ps : Parameters) (h : Hoster σ) :
    Outcome (Hoster σ) (Option (StreamParser (Hoster σ))) :=
  r.detectAmong ps (r.candidates .parser) h

end Registry

end StreamSource
