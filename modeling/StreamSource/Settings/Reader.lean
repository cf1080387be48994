import StreamSource.Settings.Basic
import StreamSource.Settings.Fault
import StreamSource.Settings.Layer

/-! Reading the settings from a layer. Each section has a schema that says how each of
its keys is read, and no other key may stand in it; an array stands for a section
whose first fields are given in order. The entries are checked in ascending order
of their keys, so the first fault is that of the least offending key; once all are
accepted, each field has the value of its entry or its default. -/

namespace StreamSource

namespace Setting

def refuse (v : Setting) (cause : LoadCause) : LoadFault := ⟨cause, [], some v.origin, true⟩

def refuseType (v : Setting) (expected : String) : LoadFault :=
  v.refuse (.wrongType v.found expected)

/-- A text; a character counts as one. -/
def text : Setting → Except LoadFault String
  | .scalar _ (.text s) => .ok s
  | .scalar _ (.character c) => .ok (String.ofList [c])
  | v => .error (v.refuseType "a string")

/-- A text, or a number or flag in its written form. -/
def looseText : Setting → Except LoadFault String
  | .scalar _ (.text s) => .ok s
  | .scalar _ (.boolean b) => .ok (boolText b)
  | .scalar _ (.signed n) => .ok (Text.showInt n)
  | .scalar _ (.unsigned n) => .ok (Text.showNat n)
  | .scalar _ (.float x) => .ok x.general
  | v => .error (v.refuse (.noVariant "Scalar"))

def boolean : Setting → Except LoadFault Bool
  | .scalar _ (.boolean b) => .ok b
  | v => .error (v.refuseType "a boolean")

/-- An integer that an unsigned word of 32 bits holds. -/
def word : Setting → Except LoadFault UInt32
  | .scalar o (.signed n) =>
    if 0 ≤ n ∧ n.toNat < UInt32.size then .ok (UInt32.ofNat n.toNat)
    else .error ⟨.outOfRange (.signed n) "u32", [], some o, true⟩
  | .scalar o (.unsigned n) =>
    if n < UInt32.size then .ok (UInt32.ofNat n)
    else .error ⟨.outOfRange (.unsigned n) "u32", [], some o, true⟩
  | v => .error (v.refuseType "u32")

/-- The items from the `i`-th on, each a text. -/
def textsFrom (i : Nat) : List Setting → Except LoadFault (List String)
  | [] => .ok []
  | v :: vs =>
    match v.text with
    | .ok s => (textsFrom (i + 1) vs).map (s :: ·)
    | .error f => .error (f.beneath (Text.showNat i))

def texts : Setting → Except LoadFault (List String)
  | .array _ items => textsFrom 0 items
  | v => .error (v.refuseType "a sequence")

def int64? (n : Int) : Option ParameterValue :=
  if Int64.minValue.toInt ≤ n ∧ n ≤ Int64.maxValue.toInt then some (.integer (Int64.ofInt n))
  else none

def integer? : Setting → Option Int
  | .scalar _ (.signed n) => some n
  | .scalar _ (.unsigned n) => some n
  | _ => none

/-- A free parameter: a text, a flag or an integer of 64 bits. -/
def parameter : Setting → Except LoadFault ParameterValue
  | .scalar _ (.text s) => .ok (.text s)
  | .scalar _ (.boolean b) => .ok (.boolean b)
  | v =>
    match v.integer?.bind int64? with
    | some n => .ok n
    | none => .error (v.refuse (.noVariant "ParameterValue"))

end Setting

/-- How the setting of a declared key is read. -/
inductive FieldKind
  | text
  | looseText
  | boolean
  | word
  | texts
  deriving DecidableEq

def fault? {α : Type} : Except LoadFault α → Option LoadFault
  | .ok _ => none
  | .error f => some f

def FieldKind.fault? : FieldKind → Setting → Option LoadFault
  | .text, v => StreamSource.fault? v.text
  | .looseText, v => StreamSource.fault? v.looseText
  | .boolean, v => StreamSource.fault? v.boolean
  | .word, v => StreamSource.fault? v.word
  | .texts, v => StreamSource.fault? v.texts

/-- The keys of a section in the order of their declaration, and its name in messages. -/
structure Schema where
  name : String
  fields : List (String × FieldKind)

namespace Schema

def keys (s : Schema) : List String := s.fields.map (·.1)

def kind? (s : Schema) (key : String) : Option FieldKind := Entry.get? s.fields key

/-- The fault of one entry. -/
def entryFault? (s : Schema) (e : String × Setting) : Option LoadFault :=
  match s.kind? e.1 with
  | none => some ((e.2.refuse (.unknownField e.1 s.keys)).beneath e.1)
  | some k => (k.fault? e.2).map (·.beneath e.1)

/-- The fields that the items of an array give, each with its place. -/
def positions (s : Schema) (items : List Setting) : List ((String × FieldKind) × Setting × Nat) :=
  s.fields.zip items.zipIdx

def positionFault? (p : (String × FieldKind) × Setting × Nat) : Option LoadFault :=
  (p.1.2.fault? p.2.1).map (·.beneath (Text.showNat p.2.2))

/-- The entries of a section that its schema accepts. -/
def read (s : Schema) : Setting → Except LoadFault Layer
  | .table _ es =>
    match es.findSome? s.entryFault? with
    | some f => .error f
    | none => .ok es
  | .array _ items =>
    match (s.positions items).findSome? positionFault? with
    | some f => .error f
    | none => .ok ((s.positions items).map fun p => (p.1.1, p.2.1))
  | v => .error (v.refuseType ("struct " ++ s.name))

end Schema

/-- What `read` makes of the entry under a key, if it is there. -/
def Layer.field? {α : Type} (es : Layer) (key : String) (read : Setting → Except LoadFault α) :
    Option α :=
  (Entry.get? es key).bind fun v => (read v).toOption

namespace LoggingSettings

def schema : Schema := ⟨"LoggingConfig", [("level", .text)]⟩

def ofLayer (es : Layer) : LoggingSettings :=
  { level := (es.field? "level" Setting.text).getD "info" }

end LoggingSettings

namespace HttpSettings

def schema : Schema :=
  ⟨"HttpConfig",
    [("user_agent", .looseText), ("referer", .looseText), ("cookie", .looseText),
      ("version", .looseText), ("ignore_content_length", .boolean),
      ("open_connection_timeout_ms", .word), ("open_connection_sleep_time_ms", .word),
      ("total_reopen_connection_timeout_ms", .word), ("server_user_name", .looseText),
      ("server_password", .looseText)]⟩

def ofLayer (es : Layer) : HttpSettings :=
  { userAgent := es.field? "user_agent" Setting.looseText
    referer := es.field? "referer" Setting.looseText
    cookie := es.field? "cookie" Setting.looseText
    version := es.field? "version" Setting.looseText
    ignoreContentLength := (es.field? "ignore_content_length" Setting.boolean).getD false
    openConnectionTimeout := (es.field? "open_connection_timeout_ms" Setting.word).getD 20000
    openConnectionSleepTime :=
      (es.field? "open_connection_sleep_time_ms" Setting.word).getD 0
    totalReopenConnectionTimeout :=
      (es.field? "total_reopen_connection_timeout_ms" Setting.word).getD 60000
    serverUserName := es.field? "server_user_name" Setting.looseText
    serverPassword := es.field? "server_password" Setting.looseText }

end HttpSettings

namespace MshsSettings

def schema : Schema := ⟨"MshsConfig", [("base_url", .looseText), ("manifest", .looseText)]⟩

def ofLayer (es : Layer) : MshsSettings :=
  { baseUrl := es.field? "base_url" Setting.looseText
    manifest := es.field? "manifest" Setting.looseText }

end MshsSettings

namespace PluginSettings

def schema : Schema := ⟨"PluginsConfig", [("disabled", .texts)]⟩

def ofLayer (es : Layer) : PluginSettings :=
  { disabled := (es.field? "disabled" Setting.texts).getD [] }

end PluginSettings

namespace Settings

/-- The keys at the top, in the order of their declaration. -/
def keys : List String := ["logging", "http", "mshs", "plugins", "parameters"]

/-- The schema of each typed section. -/
def schema? : String → Option Schema
  | "logging" => some LoggingSettings.schema
  | "http" => some HttpSettings.schema
  | "mshs" => some MshsSettings.schema
  | "plugins" => some PluginSettings.schema
  | _ => none

/-- The table of free parameters. -/
def parameterEntries : Setting → Except LoadFault Layer
  | .table _ es =>
    match es.findSome? fun e => (fault? e.2.parameter).map (·.beneath e.1) with
    | some f => .error f
    | none => .ok es
  | v => .error (v.refuseType "a map")

/-- The fault of one entry at the top. -/
def entryFault? (e : String × Setting) : Option LoadFault :=
  match schema? e.1 with
  | some s => (fault? (s.read e.2)).map (·.beneath e.1)
  | none =>
    if e.1 = "parameters" then (fault? (parameterEntries e.2)).map (·.beneath e.1)
    else some ((e.2.refuse (.unknownField e.1 keys)).beneath e.1)

/-- The entries of an accepted section, none if it is absent. -/
def section? (es : Layer) (key : String) (read : Setting → Except LoadFault Layer) : Layer :=
  (es.field? key read).getD []

def parametersOf (es : Layer) : NameMap ParameterValue :=
  .ofList (es.filterMap fun e => e.2.parameter.toOption.map fun v => (e.1, v))

def ofLayer (es : Layer) : Except LoadFault Settings :=
  match es.findSome? entryFault? with
  | some f => .error f
  | none => .ok
    { logging := .ofLayer (section? es "logging" LoggingSettings.schema.read)
      http := .ofLayer (section? es "http" HttpSettings.schema.read)
      mshs := .ofLayer (section? es "mshs" MshsSettings.schema.read)
      plugins := .ofLayer (section? es "plugins" PluginSettings.schema.read)
      parameters := parametersOf (section? es "parameters" parameterEntries) }

end Settings

end StreamSource
