import StreamSource.Text.Cut

/-! URLs, as far as they decide who serves them: the scheme is the text before the
first mark `://`, and schemes are compared without regard to ASCII letter case. -/

namespace StreamSource.Url

def mark : List Char := "://".toList

/-- The scheme and what follows the mark. -/
def split? (url : String) : Option (List Char × List Char) := Text.cut? mark url.toList

/-- A scheme and something after it, neither empty. -/
def isAbsolute (url : String) : Bool :=
  match split? url with
  | some (scheme, rest) => !scheme.isEmpty && !rest.isEmpty
  | none => false

def lower (cs : List Char) : List Char := cs.map Char.toLower

/-- Whether the URL has one of the schemes. -/
def hasScheme (schemes : List String) (url : String) : Bool :=
  match split? url with
  | some (scheme, _) => schemes.any fun s => lower s.toList == lower scheme
  | none => false

/-- The scheme, or the whole text if there is none. -/
def schemeOrAll (url : String) : String :=
  match split? url with
  | some (scheme, _) => String.ofList scheme
  | none => url

end StreamSource.Url
