import StreamSource.Names
import StreamSource.Parameters.Basic
import StreamSource.Protocol.Basic
import StreamSource.Url

/-! A protocol that serves one body from memory for every URL with one of its schemes. It
keeps the parameters that it was built with, one of which makes it refuse to open,
and the URLs that it opened. -/

namespace StreamSource

structure MemoryProtocol where
  name : String
  schemes : List String
  body : Bytes
  parameters : Parameters := .empty
  opened : List String := []
  isOpen : Bool := false
  deriving DecidableEq

namespace MemoryProtocol

def version : String := "0.1.0"

/-- A protocol with these parameters; no parameters are refused. -/
def create (name : String) (schemes : List String) (body : Bytes) (ps : Parameters) :
    Except Error MemoryProtocol :=
  .ok { name := name, schemes := schemes, body := body, parameters := ps }

def refusesToOpen (p : MemoryProtocol) : Bool := p.parameters.booleanD Names.memoryFailOpen false

instance : Protocol MemoryProtocol where
  name := MemoryProtocol.name
  version := fun _ => version
  supports := fun p url => Url.hasScheme p.schemes url
  openUrl := fun url p =>
    if p.refusesToOpen then (.error (.protocol (.refused p.name url)), p)
    else (.ok (), { p with opened := p.opened ++ [url], isOpen := true })
  read := fun position length p =>
    if p.isOpen then (.ok (p.body.slice position length), p)
    else (.error (.protocol .streamNotOpen), p)
  seek := fun position p => (.ok (p.body.clamp position), p)
  close := fun p => (.ok (), { p with isOpen := false })

end MemoryProtocol

end StreamSource
