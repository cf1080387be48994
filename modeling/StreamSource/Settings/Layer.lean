import StreamSource.NameMap
import StreamSource.Settings.Origin
import StreamSource.Toml.Basic

/-! Settings as they are made, before anything is read from them: scalars, arrays and
tables, each with its origin. The entries of a table ascend by name. A layer is laid
over the layers below it: tables are merged entry by entry, anything else is
replaced. -/

namespace StreamSource

inductive Setting
  | scalar (origin : Origin) (s : Scalar)
  | array (origin : Origin) (items : List Setting)
  | table (origin : Origin) (entries : List (String × Setting))

/-- The entries at the top of a layer. -/
abbrev Layer := List (String × Setting)

namespace Setting

def origin : Setting → Origin
  | .scalar o _ | .array o _ | .table o _ => o

def found : Setting → Found
  | .scalar _ s => .scalar s
  | .array .. => .sequence
  | .table .. => .map

mutual

/-- The setting that results where `upper` is laid over `lower`. -/
def overlay (lower : Setting) : Setting → Setting
  | .table o es =>
    match lower with
    | .table _ below => .table o (overlayEntries below es)
    | _ => .table o es
  | .scalar o s => .scalar o s
  | .array o items => .array o items

def overlayEntries (lower : Layer) : List (String × Setting) → Layer
  | [] => lower
  | (k, v) :: es =>
    overlayEntries (Entry.insert lower k (match Entry.get? lower k with
      | some below => overlay below v
      | none => v)) es

end

mutual

def ofToml (o : Origin) : Toml → Setting
  | .text s => .scalar o (.text s)
  | .integer n => .scalar o (.signed n.toInt)
  | .float x => .scalar o (.float x)
  | .boolean b => .scalar o (.boolean b)
  | .date w => .table o [(Toml.dateKey, .scalar o (.text w))]
  | .array items => .array o (ofItems o items)
  | .table es => .table o (ofEntries o es)

def ofItems (o : Origin) : List Toml → List Setting
  | [] => []
  | v :: vs => ofToml o v :: ofItems o vs

def ofEntries (o : Origin) : List (String × Toml) → Layer
  | [] => []
  | (k, v) :: es => Entry.insert (ofEntries o es) k (ofToml o v)

end

/-- A setting under a path of names. -/
def under (v : Setting) : List String → Setting
  | [] => v
  | k :: ks => .table v.origin [(k, under v ks)]

end Setting

namespace Layer

/-- The layers laid one over the other, the first at the bottom. -/
def stack (layers : List Layer) : Layer := layers.foldl Setting.overlayEntries []

end Layer

end StreamSource
