import StreamSource.ByteStream.Basic

/-! Parsers: they look at a stream and say whether they recognise it. -/

namespace StreamSource

inductive ParseResult
  | recognized (streams : Nat)
  | notRecognized
  | pending
  deriving DecidableEq

/-- A parser that has been built, for byte streams with the state `η`. -/
structure StreamParser (η : Type) where
  name : String
  version : String
  parse : η → Outcome η ParseResult

end StreamSource
