import StreamSource.Parameters.Basic
import StreamSource.Text.Quoted
import StreamSource.Text.Record

/-! What plugins are built from: parameters and, for all but protocols, the hoster that
streams are read through. A draft becomes a configuration when both are there and all
the required parameters are present. -/

namespace StreamSource

structure PluginConfiguration (η : Type) where
  parameters : Parameters
  hoster : η

/-- A configuration that may lack its parts. -/
structure ConfigurationDraft (η : Type) where
  parameters : Option Parameters := none
  hoster : Option η := none
  required : List String := []

namespace ConfigurationDraft

variable {η : Type}

def require (d : ConfigurationDraft η) (names : List String) : ConfigurationDraft η :=
  { d with required := d.required ++ names }

/-- The configuration, or the first of its parts that is missing. -/
def build (d : ConfigurationDraft η) : Except Error (PluginConfiguration η) :=
  match d.parameters, d.hoster with
  | none, _ => .error (.configuration .parametersRequired)
  | some _, none => .error (.configuration .hosterRequired)
  | some ps, some h => (ps.require d.required).map fun _ => ⟨ps, h⟩

end ConfigurationDraft

namespace ParameterValue

/-- The value as records show it. -/
def recordText : ParameterValue → String
  | .text s => Text.showWrapped "Text" (Text.quoted s)
  | .integer n => Text.showWrapped "Integer" (Text.showInt n.toInt)
  | .boolean b => Text.showWrapped "Boolean" (flagText b)

end ParameterValue

def Parameter.recordText (p : Parameter) : String :=
  Text.showRecord "Parameter" [("name", Text.quoted p.name), ("value", p.value.recordText)]

def Parameters.recordText (ps : Parameters) : String :=
  let items := Text.showList (ps.items.map (·.recordText))
  Text.showRecord "ParameterCollection" [("inner", Text.showRecord "Collection" [("items", items)])]

namespace PluginConfiguration

variable {η : Type}

def setAll (c : PluginConfiguration η) (pairs : List (String × ParameterValue)) :
    PluginConfiguration η :=
  { c with parameters := c.parameters.setAll pairs }

/-- The configuration as records show it; of the hoster they say only that it is there. -/
def recordText (c : PluginConfiguration η) : String :=
  Text.showRecord "PluginConfiguration"
    [("parameters", c.parameters.recordText), ("hoster", Text.quoted "<borrowed>")]

end PluginConfiguration

end StreamSource
