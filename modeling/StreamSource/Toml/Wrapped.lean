import StreamSource.Toml.Basic

/-! Tables that stand for one of their values. A table with the value key stands for what is
under that key, and its other entries are dropped. The mark key is reserved: no document
may have it in a table. Both keys are plain ones at the top of a document. -/

namespace StreamSource.Toml

def valueKey : String := "___figment_value_value"

def markKey : String := "___figment_value_id"

/-- What a table with these entries stands for. -/
def ofWrapped (entries : List (String × Toml)) : Toml :=
  (lookup? entries valueKey).getD (.table entries)

mutual

/-- The value that is meant, unless a table in it has the mark key. -/
def unwrap? : Toml → Option Toml
  | .array items => (unwrapAll? items).map .array
  | .table entries => (unwrapEntries? entries).map ofWrapped
  | .text s => some (.text s)
  | .integer n => some (.integer n)
  | .float x => some (.float x)
  | .boolean b => some (.boolean b)
  | .date w => some (.date w)

def unwrapAll? : List Toml → Option (List Toml)
  | [] => some []
  | v :: vs => do return (← unwrap? v) :: (← unwrapAll? vs)

def unwrapEntries? : List (String × Toml) → Option (List (String × Toml))
  | [] => some []
  | (k, v) :: es =>
    if k = markKey then none
    else do return (k, ← unwrap? v) :: (← unwrapEntries? es)

end

/-- The entries at the top of a document, with the values that are meant. -/
def unwrapTop? (entries : List (String × Toml)) : Option (List (String × Toml)) :=
  entries.mapM fun e => (unwrap? e.2).map fun v => (e.1, v)

end StreamSource.Toml
