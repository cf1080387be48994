import StreamSource.Parameters.Basic
import StreamSource.Text.Cut

/-! Assignments `NAME=VALUE`. The first equals sign ends the name, which may not be
blank and is taken without the blanks around it. The value is a flag or an integer
if it is exactly the written form of one, and a text as it stands otherwise. -/

namespace StreamSource

namespace ParameterValue

/-- The value that a text is the written form of. -/
def ofText (s : String) : ParameterValue :=
  if s = "true" then .boolean true
  else if s = "false" then .boolean false
  else match Text.int64? s.toList with
    | some n => .integer n
    | none => .text s

end ParameterValue

namespace Parameter

def ofAssignment? (s : String) : Option Parameter :=
  match Text.cut? ['='] s.toList with
  | some (name, value) =>
    if Text.allBlank name then none
    else some ⟨String.ofList (Text.trim name), .ofText (String.ofList value)⟩
  | none => none

end Parameter

namespace Parameters

/-- The collection that assignments make one after the other. If some are malformed, all
of these are counted. -/
def ofAssignments (assignments : List String) : Except Error Parameters :=
  let malformed := assignments.filter fun a => (Parameter.ofAssignment? a).isNone
  if malformed.isEmpty then
    .ok (.ofPairs ((assignments.filterMap Parameter.ofAssignment?).map fun p => (p.name, p.value)))
  else .error (.configuration (.malformedAssignments malformed.length))

end Parameters

end StreamSource
