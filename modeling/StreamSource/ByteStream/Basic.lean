import StreamSource.Error

/-! Byte streams: they are opened at a URL, read and sought by position, and closed. A call
answers or fails, and either way leaves the stream in a new state. -/

namespace StreamSource

abbrev Bytes := List UInt8

/-- What a call on a state `σ` gives: an answer or an error, and the state after it. -/
abbrev Outcome (σ α : Type) := Except Error α × σ

class ByteStream (σ : Type) where
  openUrl : String → σ → Outcome σ Unit
  read : UInt64 → Nat → σ → Outcome σ Bytes
  seek : UInt64 → σ → Outcome σ UInt64
  close : σ → Outcome σ Unit

namespace Bytes

/-- At most `length` bytes from `position` on, fewer where the bytes end. -/
def slice (position : UInt64) (length : Nat) (bs : Bytes) : Bytes :=
  (bs.drop position.toNat).take length

/-- The position itself, or the end if it is beyond. -/
def clamp (position : UInt64) (bs : Bytes) : UInt64 :=
  if bs.length < position.toNat then UInt64.ofNat bs.length else position

end Bytes

end StreamSource
