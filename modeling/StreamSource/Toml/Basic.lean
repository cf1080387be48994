import StreamSource.Found

/-! TOML values. The entries of a table stand in the order of the document; a date or
time is kept as its normal written form. -/

namespace StreamSource

inductive Toml
  | text (s : String)
  | integer (n : Int64)
  | float (x : Binary64)
  | boolean (b : Bool)
  | date (written : String)
  | array (items : List Toml)
  | table (entries : List (String × Toml))

namespace Toml

/-- The value of a key among the entries of a table. -/
def lookup? (entries : List (String × Toml)) (key : String) : Option Toml :=
  (entries.find? fun e => e.1 = key).map (·.2)

/-- The key under which a date is passed on to a reader that knows no dates. -/
def dateKey : String := "$__toml_private_datetime"

/-- What a reader that expects something else sees. -/
def found : Toml → Found
  | .text s => .scalar (.text s)
  | .integer n => .scalar (.signed n.toInt)
  | .float x => .scalar (.float x)
  | .boolean b => .scalar (.boolean b)
  | .date _ => .map
  | .array _ => .sequence
  | .table _ => .map

end Toml

end StreamSource
