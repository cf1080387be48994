/-! The written form of records, as reports show them: the name of the record and its
fields between braces, lists between brackets, and options as `None` or `Some`. -/

namespace StreamSource.Text

def showRecord (name : String) (fields : List (String × String)) : String :=
  name ++ " \x7b " ++ ", ".intercalate (fields.map fun f => f.1 ++ ": " ++ f.2) ++ " \x7d"

/-- A name and the one thing that it is about. -/
def showWrapped (name inner : String) : String := name ++ "(" ++ inner ++ ")"

def showList (items : List String) : String := "[" ++ ", ".intercalate items ++ "]"

def showOption : Option String → String
  | none => "None"
  | some s => showWrapped "Some" s

end StreamSource.Text
