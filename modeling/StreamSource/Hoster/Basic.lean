import StreamSource.Protocol.Basic
import StreamSource.Url

/-! A hoster owns protocols and has at most one of them active; it is a byte stream
itself. Opening a URL closes the active protocol, whatever comes of that, and then
offers the URL to the protocols that support it, in their order, until one opens it;
that one becomes active. Reads and seeks go to the active protocol. -/

namespace StreamSource

structure Hoster (σ : Type) where
  protocols : List σ
  active : Option Nat := none
  deriving DecidableEq

namespace Hoster

variable {σ α : Type} [Protocol σ]

def size (h : Hoster σ) : Nat := h.protocols.length

def names (h : Hoster σ) : List String := h.protocols.map Protocol.name

def activeProtocol? (h : Hoster σ) : Option σ := h.active.bind fun i => h.protocols[i]?

def activeName? (h : Hoster σ) : Option String := h.activeProtocol?.map Protocol.name

/-- Offer a URL to the protocols in order, until one opens it. The answer is the index of
that one, or the last refusal if none does. -/
def offer (url : String) : List σ → Except (Option Error) Nat × List σ
  | [] => (.error none, [])
  | p :: ps =>
    if Protocol.supports p url then
      match ByteStream.openUrl url p with
      | (.ok _, p) => (.ok 0, p :: ps)
      | (.error e, p) =>
        match offer url ps with
        | (.ok i, ps) => (.ok (i + 1), p :: ps)
        | (.error last, ps) => (.error (some (last.getD e)), p :: ps)
    else
      match offer url ps with
      | (.ok i, ps) => (.ok (i + 1), p :: ps)
      | (.error last, ps) => (.error last, p :: ps)

/-- A call on the protocol at an index. -/
def call (h : Hoster σ) (i : Nat) (f : σ → Outcome σ α) : Outcome (Hoster σ) α :=
  match h.protocols[i]? with
  | some p => ((f p).1, { h with protocols := h.protocols.set i (f p).2 })
  | none => (.error .noActiveProtocol, h)

/-- Close the active protocol, if there is one; none is active afterwards. -/
def close (h : Hoster σ) : Outcome (Hoster σ) Unit :=
  match h.active with
  | some i => { h with active := none }.call i ByteStream.close
  | none => (.ok (), h)

/-- The error of a URL that no protocol supports. -/
def unsupported (url : String) : Error := .pluginNotFound "Protocol" (Url.schemeOrAll url)

def openUrl (url : String) (h : Hoster σ) : Outcome (Hoster σ) Unit :=
  match offer url h.close.2.protocols with
  | (.ok i, ps) => (.ok (), ⟨ps, some i⟩)
  | (.error last, ps) => (.error (last.getD (unsupported url)), ⟨ps, none⟩)

/-- A call on the active protocol. -/
def callActive (h : Hoster σ) (f : σ → Outcome σ α) : Outcome (Hoster σ) α :=
  match h.active with
  | some i => h.call i f
  | none => (.error .noActiveProtocol, h)

instance : ByteStream (Hoster σ) where
  openUrl := openUrl
  read := fun position length h => h.callActive (ByteStream.read position length)
  seek := fun position h => h.callActive (ByteStream.seek position)
  close := close

end Hoster

end StreamSource
