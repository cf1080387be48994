import StreamSource.ByteStream.Basic

/-! Protocols: byte streams with a name, which say what URLs they can be opened at. -/

namespace StreamSource

class Protocol (σ : Type) extends ByteStream σ where
  name : σ → String
  version : σ → String
  supports : σ → String → Bool

end StreamSource
