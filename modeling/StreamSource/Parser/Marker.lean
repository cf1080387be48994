import StreamSource.Names
import StreamSource.Parameters.Basic
import StreamSource.Parser.Basic

/-! A parser that recognises streams by the bytes at their start. It opens the URL that
its parameters give; a stream that ends within the marker is still pending. -/

namespace StreamSource

structure MarkerParser where
  name : String
  marker : Bytes
  parameters : Parameters
  deriving DecidableEq

namespace MarkerParser

variable {η : Type} [ByteStream η]

def version : String := "0.1.0"

/-- The names of the parameters that may give the URL, the preferred one first. -/
def urlNames : List String := [Names.mshsManifest, Names.url]

def url (p : MarkerParser) : Except Error String :=
  match urlNames.find? p.parameters.contains with
  | some n => .ok (p.parameters.textD n "")
  | none => .error (.missingParameter Names.url)

/-- What the first bytes of a stream say, as many as the marker has or all of them. -/
def classify (marker head : Bytes) : ParseResult :=
  if head.length < marker.length ∧ head.isPrefixOf marker then .pending
  else if head = marker then .recognized 1
  else .notRecognized

def parse (p : MarkerParser) (h : η) : Outcome η ParseResult :=
  match p.url with
  | .error e => (.error e, h)
  | .ok url =>
    match ByteStream.openUrl url h with
    | (.error e, h) => (.error e, h)
    | (.ok _, h) =>
      (ByteStream.read 0 p.marker.length h).map (fun r => r.map (classify p.marker)) id

/-- A parser with these parameters; no parameters are refused. -/
def create (name : String) (marker : Bytes) (ps : Parameters) :
    Except Error (StreamParser η) :=
  .ok { name := name, version := version, parse := parse ⟨name, marker, ps⟩ }

end MarkerParser

end StreamSource
