import StreamSource.CommandLine.Run

/-! The program. It looks up its surroundings, runs, and prints. -/

open StreamSource

/-- The variables of the environment, in its own order. -/
def readEnvironment : IO (List (String × String)) := do
  let bytes ← try IO.FS.readBinFile "/proc/self/environ" catch _ => pure .empty
  let entries := (bytes.toList.splitOnP (· == 0)).filterMap fun bs =>
    String.fromUTF8? ⟨bs.toArray⟩
  return entries.filterMap fun e =>
    (Text.cut? ['='] e.toList).map fun p => (String.ofList p.1, String.ofList p.2)

/-- The directory for the settings of the user. -/
def userDirectory? (environment : List (String × String)) : Option Path :=
  let value (name : String) := (environment.find? fun v => v.1 = name).map (·.2)
  match (value "XDG_CONFIG_HOME").filter (·.startsWith "/") with
  | some d => some (Path.ofText d)
  | none => ((value "HOME").filter (· ≠ "")).map fun h => (Path.ofText h).child ".config"

def readFile? (p : Path) : IO (Option (Path × String)) := do
  try
    return some (p, ← IO.FS.readFile p.written)
  catch _ => return none

def readSurroundings : IO Surroundings := do
  let environment ← readEnvironment
  let s : Surroundings :=
    { files := [], workingDirectory := Path.ofText (← IO.currentDir).toString,
      userDirectory := userDirectory? environment, environment := environment }
  return { s with files := ← s.candidates.filterMapM readFile? }

def main (args : List String) : IO UInt32 := do
  let ending := CommandLine.run args (← readSurroundings)
  match ending with
  | .done output => IO.print output
  | _ => pure ()
  for line in ending.complaints do
    IO.eprintln line
  return UInt32.ofNat ending.status
