import StreamSource.Json.Basic

/-! The small closed vocabularies: kinds and states of plugins, kinds of socket and
the transport protocol that goes with each kind of socket. A word has one
spelling, and reading it back gives the kind that it was written for. -/

namespace StreamSource

inductive PluginKind
  | protocol
  | parser
  deriving DecidableEq

inductive SocketKind
  | stream
  | datagram
  deriving DecidableEq

inductive TransportProtocol
  | tcp
  | udp
  deriving DecidableEq

/-- Whether a registered plugin may be built. -/
inductive PluginStatus
  | enabled
  | disabled
  | notConfigured
  deriving DecidableEq

/-- A closed vocabulary: every word with its spelling. -/
class Vocabulary (α : Type) where
  words : List α
  spell : α → String

namespace Vocabulary

variable {α : Type} [Vocabulary α]

def ofText? (s : String) : Option α := (words (α := α)).find? fun w => spell w = s

/-- In JSON a word is its spelling, alone or as the one member, null, of an object. -/
def ofJson? : Json → Option α
  | .text s => ofText? s
  | .object [(s, .null)] => ofText? s
  | _ => none

end Vocabulary

def PluginKind.name : PluginKind → String
  | .protocol => "Protocol"
  | .parser => "Parser"

def SocketKind.name : SocketKind → String
  | .stream => "Stream"
  | .datagram => "Datagram"

def TransportProtocol.name : TransportProtocol → String
  | .tcp => "Tcp"
  | .udp => "Udp"

def PluginStatus.name : PluginStatus → String
  | .enabled => "enabled"
  | .disabled => "disabled"
  | .notConfigured => "not-configured"

instance : Vocabulary PluginStatus :=
  ⟨[.enabled, .disabled, .notConfigured], PluginStatus.name⟩

instance : Vocabulary PluginKind := ⟨[.protocol, .parser], PluginKind.name⟩

instance : Vocabulary SocketKind := ⟨[.stream, .datagram], SocketKind.name⟩

instance : Vocabulary TransportProtocol := ⟨[.tcp, .udp], TransportProtocol.name⟩

/-- Streams run over TCP, datagrams over UDP. -/
def SocketKind.transport : SocketKind → TransportProtocol
  | .stream => .tcp
  | .datagram => .udp

namespace Vocabulary

theorem ofText?_spell_pluginKind (k : PluginKind) : ofText? (spell k) = some k := by
  cases k <;> rfl

theorem ofText?_spell_socketKind (k : SocketKind) : ofText? (spell k) = some k := by
  cases k <;> rfl

end Vocabulary

end StreamSource
