import StreamSource.CommandLine.Arguments
import StreamSource.Kind
import StreamSource.Text.Numeral

/-! The commands of the program: print the parameters, resolve a host, list the plugins. -/

namespace StreamSource.CommandLine

inductive Command
  | parameters (assignments : List String)
  | resolve (host : String) (port : UInt16) (kind : SocketKind)
  | plugins (query : Option String)
  deriving DecidableEq

/-- A command, if one is given, and whether its output is JSON. -/
structure Request where
  json : Bool
  command : Option Command
  deriving DecidableEq

/-- A port number, in decimal with an optional sign. -/
def port? (s : String) : Option UInt16 :=
  (Text.int64? s.toList).bind fun n =>
    if 0 ≤ n ∧ n.toInt.toNat < UInt16.size then some (UInt16.ofNat n.toInt.toNat) else none

def parametersSignature : Signature := { flags := ["json"], valued := ["set"] }

/-- A place that accepts any text. -/
def anyText : String → Bool := fun _ => true

def resolveSignature : Signature :=
  { flags := ["json", "datagram"], places := [anyText, fun s => (port? s).isSome] }

def pluginsSignature : Signature := { flags := ["json"], places := [anyText] }

def Arguments.has (a : Arguments) (flag : String) : Bool := a.flags.contains flag

def readParameters (json : Bool) (args : List String) : Except Halt Request := do
  let a ← parametersSignature.scan {} args
  return ⟨json || a.has "json", some (.parameters (a.values.map (·.2)))⟩

def readResolve (json : Bool) (args : List String) : Except Halt Request := do
  let a ← resolveSignature.scan {} args
  let kind := if a.has "datagram" then SocketKind.datagram else SocketKind.stream
  match a.positional with
  | [host, port] =>
    match port? port with
    | some p => return ⟨json || a.has "json", some (.resolve host p kind)⟩
    | none => throw .misuse
  | _ => throw .misuse

def readPlugins (json : Bool) (args : List String) : Except Halt Request := do
  let a ← pluginsSignature.scan {} args
  return ⟨json || a.has "json", some (.plugins a.positional.head?)⟩

def commandNames : List String := ["params", "resolve", "plugins"]

/-- What follows the word `help`: nothing, or the name of a command. -/
def readHelp : List String → Halt
  | [] => .help
  | ["help"] => .help
  | [c] => if commandNames.contains c then .help else .misuse
  | _ => .misuse

def readCommand (json : Bool) (word : String) (args : List String) : Except Halt Request :=
  match word with
  | "params" => readParameters json args
  | "resolve" => readResolve json args
  | "plugins" => readPlugins json args
  | "help" => .error (readHelp args)
  | _ => .error .misuse

/-- Read all arguments; before the command only the flag for JSON may stand. -/
def Request.read (json : Bool) : List String → Except Halt Request
  | [] => .ok ⟨json, none⟩
  | arg :: args =>
    match Form.of arg with
    | .rest => if args.isEmpty then .ok ⟨json, none⟩ else .error .misuse
    | .word => readCommand json arg args
    | .short ('V' :: _) => .error .version
    | .short letters => .error (shortHalt letters)
    | .long "help" none => .error .help
    | .long "version" none => .error .version
    | .long "json" none => if json then .error .misuse else Request.read true args
    | .long _ _ => .error .misuse

def Request.ofArguments (args : List String) : Except Halt Request := Request.read false args

end StreamSource.CommandLine
