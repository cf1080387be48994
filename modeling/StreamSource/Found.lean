import StreamSource.Binary64.Printer
import StreamSource.Text.Quoted

/-! Scalars of structured data, and what a reader found where it expected something
else. A manifest and a settings layer name the same finds in different words; a
character is named as the text that it makes. -/

namespace StreamSource

inductive Scalar
  | boolean (b : Bool)
  | signed (n : Int)
  | unsigned (n : Nat)
  | float (x : Binary64)
  | character (c : Char)
  | text (s : String)
  deriving DecidableEq

/-- A scalar, one of the two structures, or something known by name only. -/
inductive Found
  | scalar (s : Scalar)
  | sequence
  | map
  | other (name : String)
  deriving DecidableEq

def boolText (b : Bool) : String := if b then "true" else "false"

namespace Scalar

/-- The words used for the values of settings layers. -/
def inLayer : Scalar → String
  | .boolean b => "bool " ++ boolText b
  | .signed n => "signed int `" ++ Text.showInt n ++ "`"
  | .unsigned n => "unsigned int `" ++ Text.showNat n ++ "`"
  | .float x => "float `" ++ x.plain ++ "`"
  | .character c => "string " ++ Text.quoted (String.ofList [c])
  | .text s => "string " ++ Text.quoted s

/-- The words used for the values of manifests. -/
def inManifest : Scalar → String
  | .boolean b => "boolean `" ++ boolText b ++ "`"
  | .signed n => "integer `" ++ Text.showInt n ++ "`"
  | .unsigned n => "integer `" ++ Text.showNat n ++ "`"
  | .float x => "floating point `" ++ x.pointed ++ "`"
  | .character c => "string " ++ Text.quoted (String.ofList [c])
  | .text s => "string " ++ Text.quoted s

end Scalar

namespace Found

def describe (words : Scalar → String) : Found → String
  | .scalar s => words s
  | .sequence => "sequence"
  | .map => "map"
  | .other name => name

def inLayer : Found → String := describe Scalar.inLayer

def inManifest : Found → String := describe Scalar.inManifest

end Found

end StreamSource
