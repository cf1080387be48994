import StreamSource.Environment.Layer
import StreamSource.Parameters.Assignment
import StreamSource.Path
import StreamSource.Settings.Diagnosis
import StreamSource.Settings.Reader
import StreamSource.Toml.Reader
import StreamSource.Toml.Wrapped

/-! Loading the settings. The layers are, from the lowest to the highest: the file of
the system, the file of the user, the nearest file at or above the working
directory, and the environment. A text that is no TOML fails the load; if several
are none, all are reported, the highest first. Where nothing fails, the stack of the
layers is read, and then checked. -/

namespace StreamSource

/-- What loading depends on: the files, two directories and the environment. -/
structure Surroundings where
  files : List (Path × String)
  workingDirectory : Path
  userDirectory : Option Path
  environment : List (String × String)

namespace Layer

/-- The layer of a TOML text. -/
def ofText (origin : Origin) (content : String) : Except LoadFault Layer :=
  match (Toml.read? content).bind Toml.unwrapTop? with
  | some entries => .ok (Setting.ofEntries origin entries)
  | none => .error { cause := .malformed }

/-- The stack of the layers, unless some are malformed. -/
def stackAll (layers : List (Except LoadFault Layer)) : Except (List LoadFault) Layer :=
  match layers.filterMap fault? with
  | [] => .ok (stack (layers.filterMap Except.toOption))
  | fs => .error fs.reverse

end Layer

namespace Settings

/-- The settings in a stack of layers. -/
def ofLayers (layers : List (Except LoadFault Layer)) : Except (List LoadFault) Settings :=
  match Layer.stackAll layers with
  | .ok l => (ofLayer l).mapError fun f => [f]
  | .error fs => .error fs

/-- The settings, if they have no violation. -/
def check (s : Settings) : Except (List Diagnosis) Settings :=
  match s.violations with
  | [] => .ok s
  | vs => .error (vs.map .violation)

/-- Check what was loaded, or diagnose why nothing was. -/
def diagnose (sources : List SourceText) :
    Except (List LoadFault) Settings → Except (List Diagnosis) Settings
  | .ok s => s.check
  | .error fs => .error (fs.map (Diagnosis.ofFault sources))

/-- The settings in a TOML text alone. -/
def ofText (content : String) : Except (List LoadFault) Settings :=
  ofLayers [Layer.ofText .inline content]

def ofCheckedText (content : String) : Except (List Diagnosis) Settings :=
  diagnose [⟨"<inline>", content⟩] (ofText content)

/-- The parameters with assignments laid over them. -/
def effective (s : Settings) (assignments : List String) : Except Error Parameters :=
  (Parameters.ofAssignments assignments).map s.layered

end Settings

namespace Surroundings

def fileName : String := "urlsplitter.toml"

def systemFile : Path := ⟨["etc", "urlsplitter", fileName]⟩

def userFile? (s : Surroundings) : Option Path :=
  s.userDirectory.map fun d => (d.child "urlsplitter").child fileName

def content? (s : Surroundings) (path : Path) : Option String :=
  (s.files.find? fun f => f.1 = path).map (·.2)

/-- The nearest file of a name, at or above the working directory. -/
def nearest? (s : Surroundings) (name : String) : Option Path :=
  (s.workingDirectory.ancestors.map fun d => d.child name).find? fun p => (s.content? p).isSome

/-- Every file that may have a say in the settings. -/
def candidates (s : Surroundings) : List Path :=
  [systemFile] ++ s.userFile?.toList ++ s.workingDirectory.ancestors.map fun d => d.child fileName

/-- The layer of a file, with nothing in it if there is no such file. -/
def fileLayer (s : Surroundings) (path? : Option Path) : Except LoadFault Layer :=
  match path?.bind fun p => (s.content? p).map fun c => (p, c) with
  | some (p, c) => Layer.ofText (.file p.written (p.shownFrom s.workingDirectory)) c
  | none => .ok []

def layers (s : Surroundings) : List (Except LoadFault Layer) :=
  [s.fileLayer (some systemFile), s.fileLayer s.userFile?, s.fileLayer (s.nearest? fileName),
    .ok (Environment.layer s.environment)]

/-- The text of a file, if there is one, under the path of the file. -/
def sourceText? (s : Surroundings) (path : Path) : Option SourceText :=
  (s.content? path).map fun c => ⟨path.written, c⟩

def sources (s : Surroundings) : List SourceText :=
  ([systemFile] ++ s.userFile?.toList ++ [s.workingDirectory.child fileName]).filterMap
    s.sourceText?

def settings (s : Surroundings) : Except (List Diagnosis) Settings :=
  Settings.diagnose s.sources (Settings.ofLayers s.layers)

/-- The settings in the nearest file of a name and in the environment, unchecked. -/
def settingsIn (s : Surroundings) (name : String) : Except (List Diagnosis) Settings :=
  (Settings.ofLayers [s.fileLayer (s.nearest? name), .ok (Environment.layer s.environment)]).mapError
    fun fs => fs.map (Diagnosis.ofFault ((s.sourceText? (s.workingDirectory.child name)).toList))

end Surroundings

end StreamSource
