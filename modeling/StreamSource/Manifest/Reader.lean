import StreamSource.Manifest.Basic
import StreamSource.Toml.Reader

/-! Reading a manifest from a TOML text. It stands in the table `plugin`, or in an array
that gives the fields in the order of their declaration; other keys are passed over.
Fields are checked in the order of the document and then for absence, and the values
of the name, the version and the kind are checked last, in this order. -/

namespace StreamSource.PluginManifest

inductive FieldShape
  | text
  | texts
  deriving DecidableEq

/-- The fields in the order of their declaration. -/
def fields : List (String × FieldShape) :=
  [("name", .text), ("version", .text), ("description", .text), ("kind", .text),
    ("author", .text), ("schemes", .texts), ("required_parameters", .texts)]

/-- The fields that no table may lack. -/
def mandatory : List String := ["name", "version", "description", "kind"]

/-- The number of fields that no array may lack. -/
def leastLength : Nat := 5

def textFault? : Toml → Option ManifestFault
  | .text _ => none
  | v => some (.wrongType v.found "a string")

def FieldShape.fault? : FieldShape → Toml → Option ManifestFault
  | .text, v => textFault? v
  | .texts, .array items => items.findSome? textFault?
  | .texts, v => some (.wrongType v.found "a sequence")

def shape? (key : String) : Option FieldShape :=
  (fields.find? fun f => f.1 = key).map (·.2)

def entryFault? (e : String × Toml) : Option ManifestFault :=
  (shape? e.1).bind fun s => s.fault? e.2

/-- The entries of a table that has all it must have, and nothing of the wrong type. -/
def checkTable (entries : List (String × Toml)) :
    Except ManifestFault (List (String × Toml)) :=
  match entries.findSome? entryFault? with
  | some f => .error f
  | none =>
    match mandatory.find? fun k => (Toml.lookup? entries k).isNone with
    | some k => .error (.missingField k)
    | none => .ok entries

/-- The entries that an array gives. -/
def checkArray (items : List Toml) : Except ManifestFault (List (String × Toml)) :=
  let given := fields.zip items
  match given.findSome? fun p => p.1.2.fault? p.2 with
  | some f => .error f
  | none =>
    if items.length < leastLength then .error (.tooShort items.length)
    else .ok (given.map fun p => (p.1.1, p.2))

def check : Toml → Except ManifestFault (List (String × Toml))
  | .table entries => checkTable entries
  | .date _ => checkTable []
  | .array items => checkArray items
  | v => .error (.wrongType v.found "struct PluginSection")

def text? : Toml → Option String
  | .text s => some s
  | _ => none

def texts : Toml → List String
  | .array items => items.filterMap text?
  | _ => []

def textAt? (entries : List (String × Toml)) (key : String) : Option String :=
  (Toml.lookup? entries key).bind text?

def textsAt (entries : List (String × Toml)) (key : String) : List String :=
  ((Toml.lookup? entries key).map texts).getD []

/-- The manifest that checked entries make. -/
def ofEntries (entries : List (String × Toml)) : Except ManifestFault PluginManifest :=
  let field (key : String) := (textAt? entries key).getD ""
  if field "name" = "" then .error .emptyName
  else match Version.read (field "version").toList with
    | .error f => .error (.badVersion (field "version") f)
    | .ok _ =>
      match Vocabulary.ofText? (field "kind") with
      | none => .error (.unknownKind (field "kind"))
      | some kind => .ok
        { name := field "name"
          version := field "version"
          description := field "description"
          kind := kind
          author := textAt? entries "author"
          schemes := textsAt entries "schemes"
          requiredParameters := textsAt entries "required_parameters" }

/-- The manifest in the entries at the top of a document. -/
def ofDocument (entries : List (String × Toml)) : Except ManifestFault PluginManifest :=
  match Toml.lookup? entries "plugin" with
  | none => .error (.missingField "plugin")
  | some v => (check v).bind ofEntries

def read (s : String) : Except ManifestFault PluginManifest :=
  match Toml.read? s with
  | none => .error .malformed
  | some entries => ofDocument entries

def ofText (s : String) : Except Error PluginManifest :=
  (read s).mapError fun f => .configuration (.manifest f)

end StreamSource.PluginManifest
