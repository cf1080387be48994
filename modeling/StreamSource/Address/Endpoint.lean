import StreamSource.Address.Host
import StreamSource.Collection.Step
import StreamSource.Kind

/-! Endpoints: a socket and the kind of socket to connect it with. A host that is
written in numbers resolves to the one endpoint at that address; no names are
looked up. -/

namespace StreamSource

structure Endpoint where
  socket : Socket
  kind : SocketKind
  deriving DecidableEq

namespace Endpoint

def transport (e : Endpoint) : TransportProtocol := e.kind.transport

def written (e : Endpoint) : String := e.socket.written ++ " (" ++ e.transport.name ++ ")"

instance : Copyable Endpoint where
  typeName := "Endpoint"
  refuses := fun _ => false

/-- The endpoints of a host, in order of preference. -/
def resolve (host : String) (port : UInt16) (kind : SocketKind) :
    Except Error (Collection Endpoint) :=
  match Socket.ofHost? host port with
  | some socket => .ok ⟨[⟨socket, kind⟩]⟩
  | none => .error (.resolve host "not an address")

inductive Step
  | edit (s : Collection.Step Endpoint)
  | resolve (host : String) (port : UInt16) (kind : SocketKind)

inductive Answer
  | edit (a : Collection.Answer Endpoint)
  | resolved (es : List Endpoint)
  | failed (e : Error)

/-- One step on the register `on`; a host that does not resolve leaves it as it was. -/
def Step.run (on : String) (r : Registers (Collection Endpoint)) :
    Step → Answer × Registers (Collection Endpoint)
  | .edit s =>
    let (a, r) := s.run on r
    (.edit a, r)
  | .resolve host port kind =>
    match Endpoint.resolve host port kind with
    | .ok c => (.resolved c.items, r.put on c)
    | .error e => (.failed e, r)

/-- The answers of a run, each with what its register holds after the step. -/
def run (r : Registers (Collection Endpoint)) :
    List (String × Step) → List (Answer × Collection Endpoint)
  | [] => []
  | (on, s) :: steps =>
    let (a, r) := s.run on r
    (a, r.getD on .empty) :: run r steps

end Endpoint

end StreamSource
