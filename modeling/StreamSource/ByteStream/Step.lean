import StreamSource.ByteStream.Basic

/-! The calls on a byte stream as data, and runs of them. -/

namespace StreamSource

inductive StreamStep
  | openUrl (url : String)
  | read (position : UInt64) (length : Nat)
  | seek (position : UInt64)
  | close
  deriving DecidableEq

inductive StreamAnswer
  | done
  | bytes (bs : Bytes)
  | position (p : UInt64)
  | failed (e : Error)
  deriving DecidableEq

def StreamAnswer.ofExcept {α : Type} (f : α → StreamAnswer) : Except Error α → StreamAnswer
  | .ok a => f a
  | .error e => .failed e

namespace ByteStream

variable {σ : Type} [ByteStream σ]

def step (s : σ) : StreamStep → StreamAnswer × σ
  | .openUrl url => (openUrl url s).map (.ofExcept fun _ => .done) id
  | .read position length => (read position length s).map (.ofExcept .bytes) id
  | .seek position => (seek position s).map (.ofExcept .position) id
  | .close => (close s).map (.ofExcept fun _ => .done) id

end ByteStream

end StreamSource
