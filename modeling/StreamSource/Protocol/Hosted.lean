import StreamSource.Protocol.Memory
import StreamSource.Protocol.Scripted

/-! A protocol of either kind, so that one hoster can host both. -/

namespace StreamSource

inductive HostedProtocol
  | memory (p : MemoryProtocol)
  | scripted (p : ScriptedProtocol)
  deriving DecidableEq

namespace HostedProtocol

/-- An outcome with the state seen as one of either kind. -/
def lift {σ α : Type} (wrap : σ → HostedProtocol) (r : Outcome σ α) : Outcome HostedProtocol α :=
  (r.1, wrap r.2)

instance : Protocol HostedProtocol where
  name
    | .memory p => Protocol.name p
    | .scripted p => Protocol.name p
  version
    | .memory p => Protocol.version p
    | .scripted p => Protocol.version p
  supports
    | .memory p, url => Protocol.supports p url
    | .scripted p, url => Protocol.supports p url
  openUrl url
    | .memory p => lift .memory (ByteStream.openUrl url p)
    | .scripted p => lift .scripted (ByteStream.openUrl url p)
  read position length
    | .memory p => lift .memory (ByteStream.read position length p)
    | .scripted p => lift .scripted (ByteStream.read position length p)
  seek position
    | .memory p => lift .memory (ByteStream.seek position p)
    | .scripted p => lift .scripted (ByteStream.seek position p)
  close
    | .memory p => lift .memory (ByteStream.close p)
    | .scripted p => lift .scripted (ByteStream.close p)

end HostedProtocol

end StreamSource
