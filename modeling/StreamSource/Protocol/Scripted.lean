import StreamSource.Protocol.Basic

/-! A protocol that follows a script: the calls that it names fail every time. It supports
the URLs with a given start, and its bytes are those of its name over and over. -/

namespace StreamSource

structure ScriptedProtocol where
  name : String
  urlStart : String
  failing : List StreamCall := []
  isOpen : Bool := false
  deriving DecidableEq

namespace ScriptedProtocol

def version : String := "1.2.3"

/-- The protocol itself, unless the script refuses to build it. -/
def create (p : ScriptedProtocol) (refuses : Bool) : Except Error ScriptedProtocol :=
  if refuses then .error (.internal (.refused p.name)) else .ok p

/-- The most bytes that one call reads. -/
def longestRead : Nat := 64

/-- The bytes of the name over and over, from a position on. -/
def bytes (p : ScriptedProtocol) (position : UInt64) (length : Nat) : Bytes :=
  let period := p.name.toUTF8.data
  (List.range (min length longestRead)).filterMap fun i =>
    period[(position.toNat + i) % period.size]?

/-- The answer of a call, unless the script makes it fail. -/
def scripted {α : Type} (call : StreamCall) (p : ScriptedProtocol)
    (r : Outcome ScriptedProtocol α) : Outcome ScriptedProtocol α :=
  if call ∈ p.failing then (.error (.protocol (.failed p.name call)), p) else r

instance : Protocol ScriptedProtocol where
  name := ScriptedProtocol.name
  version := fun _ => version
  supports := fun p url => p.urlStart.toList.isPrefixOf url.toList
  openUrl := fun _ p => scripted .openUrl p (.ok (), { p with isOpen := true })
  read := fun position length p => scripted .read p
    (if p.isOpen then (.ok (p.bytes position length), p) else (.error (.protocol .notOpen), p))
  seek := fun position p => scripted .seek p (.ok position, p)
  close := fun p => scripted .close p (.ok (), { p with isOpen := false })

end ScriptedProtocol

end StreamSource
