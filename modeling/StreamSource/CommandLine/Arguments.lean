import StreamSource.Text.Cut

/-! Reading the arguments of a command from left to right. An argument that starts with two
hyphens is an option: a flag, given once at most, or a name that takes a value, after
an equals sign or as the next argument. Two hyphens alone make the rest positional,
and so is a hyphen alone. The first argument that is out of place, or not accepted in its
place, stops the reading. -/

namespace StreamSource.CommandLine

/-- Why the arguments lead to no command. -/
inductive Halt
  | help
  | version
  | misuse
  deriving DecidableEq

/-- What a command takes. Each place for a positional argument says what it accepts. -/
structure Signature where
  flags : List String := []
  valued : List String := []
  places : List (String → Bool) := []

/-- What it was given, in order. -/
structure Arguments where
  flags : List String := []
  values : List (String × String) := []
  positional : List String := []
  deriving DecidableEq

namespace Arguments

def addFlag (s : Signature) (name : String) (a : Arguments) : Except Halt Arguments :=
  if s.flags.contains name && !a.flags.contains name then
    .ok { a with flags := a.flags ++ [name] }
  else .error .misuse

def addValue (name value : String) (a : Arguments) : Arguments :=
  { a with values := a.values ++ [(name, value)] }

def addPositional (s : Signature) (word : String) (a : Arguments) : Except Halt Arguments :=
  if (s.places[a.positional.length]?).any fun accepts => accepts word then
    .ok { a with positional := a.positional ++ [word] }
  else .error .misuse

end Arguments

/-- How an argument reads by its form alone. -/
inductive Form
  | rest
  | long (name : String) (value : Option String)
  | short (letters : List Char)
  | word
  deriving DecidableEq

def longForm (cs : List Char) : Form :=
  match Text.cut? ['='] cs with
  | some (name, value) => .long (String.ofList name) (some (String.ofList value))
  | none => .long (String.ofList cs) none

def Form.of (argument : String) : Form :=
  match argument.toList with
  | ['-', '-'] => .rest
  | '-' :: '-' :: cs => longForm cs
  | '-' :: c :: cs => .short (c :: cs)
  | _ => .word

/-- Whether an argument may be the value of the option before it. -/
def isValue (argument : String) : Bool := Form.of argument = .word

/-- What letters after one hyphen ask for. -/
def shortHalt : List Char → Halt
  | 'h' :: _ => .help
  | _ => .misuse

namespace Signature

def scan (s : Signature) (a : Arguments) : List String → Except Halt Arguments
  | [] => .ok a
  | [arg] =>
    match Form.of arg with
    | .rest => .ok a
    | .word => a.addPositional s arg
    | .short letters => .error (shortHalt letters)
    | .long "help" none => .error .help
    | .long name none => a.addFlag s name
    | .long name (some v) =>
      if s.valued.contains name then .ok (a.addValue name v) else .error .misuse
  | arg :: next :: args =>
    match Form.of arg with
    | .rest => (next :: args).foldlM (fun a w => a.addPositional s w) a
    | .word => do scan s (← a.addPositional s arg) (next :: args)
    | .short letters => .error (shortHalt letters)
    | .long "help" none => .error .help
    | .long name none =>
      if s.valued.contains name then
        if isValue next then scan s (a.addValue name next) args else .error .misuse
      else do scan s (← a.addFlag s name) (next :: args)
    | .long name (some v) =>
      if s.valued.contains name then scan s (a.addValue name v) (next :: args)
      else .error .misuse

end Signature

end StreamSource.CommandLine
