import StreamSource.Text.Blank
import StreamSource.Text.Cut

/-! Where a key stands in the text of a layer, counted in bytes. The search starts
after the first header of the section, or at the start of the text; a key stands at
the first character of a line that is not blank, and a space, a tab or an equals
sign follows it. -/

namespace StreamSource.KeyPosition

open Text

/-- The number of bytes of a text. -/
def size (cs : List Char) : Nat := cs.foldr (fun c n => c.utf8Size + n) 0

/-- The lines of a text, each with the line feed that ends it. -/
def lines : List Char → List (List Char)
  | [] => []
  | c :: r =>
    if c = '\n' then [c] :: lines r
    else match lines r with
      | [] => [[c]]
      | l :: ls => (c :: l) :: ls

/-- Whether a key and something that may follow a key come next. -/
def startsWith (field cs : List Char) : Bool :=
  field.isPrefixOf cs &&
    match (cs.drop field.length).head? with
    | some c => c = ' ' || c = '=' || c = '\t'
    | none => false

/-- The key's place in lines that begin at `offset`. -/
def inLines? (field : List Char) (offset : Nat) : List (List Char) → Option Nat
  | [] => none
  | l :: ls =>
    if startsWith field (trimStart l) then some (offset + (size l - size (trimStart l)))
    else inLines? field (offset + size l) ls

def header (name : String) : List Char := '[' :: name.toList ++ [']']

/-- The offset of a key in the section that its path begins with. -/
def offset? (content : String) (path : List String) (field : String) : Option Nat :=
  match path with
  | [] => inLines? field.toList 0 (lines content.toList)
  | s :: _ =>
    (cut? (header s) content.toList).bind fun p =>
      inLines? field.toList (size p.1 + size (header s)) (lines p.2)

theorem flatten_lines (cs : List Char) : (lines cs).flatten = cs := by
  fun_induction lines cs <;> simp_all

end StreamSource.KeyPosition
