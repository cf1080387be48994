import StreamSource.Environment.Value
import StreamSource.Text.Cut

/-! The layer that the environment makes. A variable counts when its name, blanks
around it removed, starts with the mark of the program in any letter case. The rest
of the name in small letters is the place of the setting: a section and an
underscore lead to a field of that section, points lead further down. A later
variable is laid over the earlier ones. -/

namespace StreamSource.Environment

open Text

def mark : String := "URLSPLITTER_"

def sections : List String := ["logging", "http", "mshs", "plugins"]

/-- What follows a section and an underscore at the start of a name. -/
def fieldOf? (name : List Char) (s : String) : Option (List Char) :=
  if (s.toList ++ ['_']).isPrefixOf name then some (name.drop (s.length + 1))
  else none

/-- The place of a name in small letters, its parts joined by points. -/
def placeOf (name : List Char) : List Char :=
  match sections.findSome? fun s => (fieldOf? name s).map fun f => s.toList ++ '.' :: f with
  | some place => place
  | none => name

/-- The path that a variable sets, if it sets one. No part of it may be empty. -/
def pathOf? (name : String) : Option (List String) :=
  let cs := (trim name.toList).map Char.toLower
  let start := mark.toList.map Char.toLower
  if start.isPrefixOf cs then
    let ps := pieces '.' (trim (placeOf (cs.drop start.length)))
    if ps.any List.isEmpty then none else some (ps.map String.ofList)
  else none

/-- The layer of one variable. -/
def layerOf (name value : String) : Layer :=
  match pathOf? name with
  | none => []
  | some path =>
    match Setting.under (settingOf value) path with
    | .table _ es => es
    | _ => []

def layer (vars : List (String × String)) : Layer :=
  Layer.stack (vars.map fun v => layerOf v.1 v.2)

end StreamSource.Environment
