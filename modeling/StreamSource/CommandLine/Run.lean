import StreamSource.Address.Endpoint
import StreamSource.CommandLine.Command
import StreamSource.Manifest.Catalog
import StreamSource.Settings.Loading

/-! What the program prints and how it ends. The settings are loaded only for arguments
that can be read, and whatever the command, it needs settings that load. The texts on its use
are those of the reader of the arguments, and left to it. -/

namespace StreamSource.CommandLine

inductive Ending
  | done (output : String)
  | helped
  | misused
  | misconfigured (ds : List Diagnosis)
  | failed (e : Error)
  deriving DecidableEq

/-- The exit status of the program. -/
def Ending.status : Ending → Nat
  | .done _ => 0
  | .helped => 0
  | .misused => 2
  | .misconfigured _ => 1
  | .failed _ => 1

def program : String := "urlsplitter"

def lines (ls : List String) : String := String.join (ls.map (· ++ "\n"))

def padLeft (width : Nat) (s : String) : String :=
  String.ofList (List.replicate (width - s.length) ' ') ++ s

def padRight (width : Nat) (s : String) : String :=
  s ++ String.ofList (List.replicate (width - s.length) ' ')

def showParameters (json : Bool) (ps : Parameters) : String :=
  if json then lines [ps.toJson.spaced]
  else if ps.items.isEmpty then lines ["(no parameters)"]
  else lines ps.lines

def endpointJson (e : Endpoint) (rank : Nat) : Json :=
  .object [("rank", .integer rank), ("address", .text e.socket.written),
    ("protocol", .text e.transport.name)]

def endpointLine (e : Endpoint) (rank : Nat) : String :=
  padLeft 3 (Text.showNat rank) ++ "  " ++ e.written

def showEndpoints (json : Bool) (c : Collection Endpoint) : String :=
  if json then lines [(Json.array (c.items.zipIdx.map fun p => endpointJson p.1 p.2)).spaced]
  else lines (c.items.zipIdx.map fun p => endpointLine p.1 p.2)

def textsJson (ts : List String) : Json := .array (ts.map .text)

def listingJson (l : Catalog.Listing) : Json :=
  let m := l.manifest
  .object [("name", .text m.name), ("version", .text m.version),
    ("description", .text m.description), ("kind", .text m.kind.name),
    ("author", (m.author.map Json.text).getD .null), ("schemes", textsJson m.schemes),
    ("required_parameters", textsJson m.requiredParameters), ("disabled", .boolean l.isDisabled)]

/-- A line on the plugin, and one on the parameters that it requires, if any. -/
def listingLines (l : Catalog.Listing) : List String :=
  let m := l.manifest
  let state := if l.isDisabled then " [disabled]" else ""
  let first := padRight 14 m.name ++ " " ++ padRight 9 m.kind.name ++ " " ++ m.description ++ state
  if m.requiredParameters.isEmpty then [first]
  else [first, padRight 24 "" ++ " requires: " ++ ", ".intercalate m.requiredParameters]

def showListings (json : Bool) (ls : List Catalog.Listing) : String :=
  if json then lines [(Json.array (ls.map listingJson)).spaced]
  else if ls.isEmpty then lines ["No plugins match."]
  else lines (ls.flatMap listingLines)

/-- What a command prints under these settings. -/
def Request.output (r : Request) (s : Settings) : Except Error String :=
  match r.command with
  | none => .ok (lines [program ++ ": use --help for available commands"])
  | some (.parameters assignments) => (s.effective assignments).map (showParameters r.json)
  | some (.resolve host port kind) =>
    (Endpoint.resolve host port kind).map (showEndpoints r.json)
  | some (.plugins query) => .ok (showListings r.json (Catalog.listings s query))

def versionText : String := lines [program ++ " 0.1.0"]

def Request.run (r : Request) (s : Surroundings) : Ending :=
  match s.settings with
  | .error ds => .misconfigured ds
  | .ok settings =>
    match r.output settings with
    | .ok text => .done text
    | .error e => .failed e

/-- Run the program. -/
def run (args : List String) (s : Surroundings) : Ending :=
  match Request.ofArguments args with
  | .error .help => .helped
  | .error .version => .done versionText
  | .error .misuse => .misused
  | .ok r => r.run s

/-- What the program itself says on the error channel, line by line. -/
def Ending.complaints : Ending → List String
  | .misconfigured ds => ds.map fun d => "Error: " ++ d.message
  | .failed e => [program ++ ": " ++ e.message]
  | .done _ | .helped | .misused => []

end StreamSource.CommandLine
