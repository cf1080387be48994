import StreamSource.Toml.Node
import StreamSource.Toml.Scalar
import StreamSource.Toml.Text

/-! Reading a TOML document: keys and headers, values with brackets nested less than
eighty deep, and the lines of the document. The lines are grouped under their
headers and then put together into one table. -/

namespace StreamSource.Toml

open Text (isTextChar)

/-- The nesting that is refused, of brackets and of the parts of one key. -/
def depthLimit : Nat := 80

/-- Skip spaces, line breaks and comments, as between the items of an array. -/
def skipLines : Bool → List Char → List Char
  | _, [] => []
  | _, '\n' :: r => skipLines false r
  | _, '\r' :: '\n' :: r => skipLines false r
  | true, c :: r => if isTextChar c then skipLines true r else c :: r
  | false, c :: r =>
    if isSpace c then skipLines false r
    else if c = '#' then skipLines true r
    else c :: r

/-- The rest after the end of a line: spaces, perhaps a comment, a line break or the end. -/
def lineEnd? (cs : List Char) : Option (List Char) :=
  let r := match skipSpace cs with
    | '#' :: r => r.dropWhile isTextChar
    | r => r
  if r.isEmpty then some [] else newline? r

def isBareKeyChar (c : Char) : Bool := c.isAlphanum || c = '_' || c = '-'

def simpleKey? (cs : List Char) : Option (String × List Char) :=
  match cs with
  | '"' :: _ => lineText? cs
  | '\'' :: _ => lineText? cs
  | _ =>
    let k := cs.takeWhile isBareKeyChar
    if k.isEmpty then none else some (String.ofList k, cs.drop k.length)

/-- The parts of a key, with spaces allowed around each. -/
def keyParts? : Nat → List Char → Option (List String × List Char)
  | 0, _ => none
  | fuel + 1, cs => do
    let (k, r) ← simpleKey? (skipSpace cs)
    match skipSpace r with
    | '.' :: r =>
      let (ks, r) ← keyParts? fuel r
      return (k :: ks, r)
    | r => return ([k], r)

/-- A key as its leading parts and its last one. -/
def key? (cs : List Char) : Option ((List String × String) × List Char) := do
  let (ks, r) ← keyParts? (cs.length + 1) cs
  if depthLimit ≤ ks.length then none
  let last ← ks.getLast?
  return ((ks.dropLast, last), r)

mutual

/-- A value inside `depth` brackets, and the rest. -/
def value? : Nat → Nat → List Char → Option (Toml × List Char)
  | 0, _, _ => none
  | fuel + 1, depth, cs =>
    match cs with
    | '"' :: _ => (text? cs).map fun p => (.text p.1, p.2)
    | '\'' :: _ => (text? cs).map fun p => (.text p.1, p.2)
    | '[' :: r =>
      if depthLimit ≤ depth + 1 then none
      else (items? fuel (depth + 1) r).map fun p => (.array p.1, p.2)
    | '\x7b' :: r =>
      if depthLimit ≤ depth + 1 then none
      else match skipSpace r with
        | '\x7d' :: r => some (.table [], r)
        | r => do
          let (values, r) ← pairs? fuel (depth + 1) r
          let t ← Entries.addValues [] values
          return (.table (Entries.toToml t), r)
    | cs => scalar? cs

/-- The items of an array up to its closing bracket; a comma may come before it. -/
def items? : Nat → Nat → List Char → Option (List Toml × List Char)
  | 0, _, _ => none
  | fuel + 1, depth, cs =>
    match skipLines false cs with
    | ']' :: r => some ([], r)
    | cs => do
      let (v, r) ← value? fuel depth cs
      match skipLines false r with
      | ']' :: r => return ([v], r)
      | ',' :: r =>
        let (vs, r) ← items? fuel depth r
        return (v :: vs, r)
      | _ => none

/-- The entries of an inline table up to its closing brace. -/
def pairs? : Nat → Nat → List Char → Option (List (List String × String × Toml) × List Char)
  | 0, _, _ => none
  | fuel + 1, depth, cs => do
    let ((path, key), r) ← key? cs
    match r with
    | '=' :: r =>
      let (v, r) ← value? fuel depth (skipSpace r)
      match skipSpace r with
      | '\x7d' :: r => return ([(path, key, v)], r)
      | ',' :: r =>
        let (rest, r) ← pairs? fuel depth r
        return ((path, key, v) :: rest, r)
      | _ => none
    | _ => none

end

/-- What a line of a document says. -/
inductive Line
  | header (path : List String) (key : String)
  | arrayHeader (path : List String) (key : String)
  | entry (path : List String) (key : String) (v : Toml)

def headerLine? (cs : List Char) : Option (Line × List Char) :=
  match cs with
  | '[' :: r => do
    let ((path, key), r) ← key? r
    match r with
    | ']' :: ']' :: r => return (.arrayHeader path key, ← lineEnd? r)
    | _ => none
  | r => do
    let ((path, key), r) ← key? r
    match r with
    | ']' :: r => return (.header path key, ← lineEnd? r)
    | _ => none

def entryLine? (fuel : Nat) (cs : List Char) : Option (Line × List Char) := do
  let ((path, key), r) ← key? cs
  match r with
  | '=' :: r =>
    let (v, r) ← value? fuel 0 (skipSpace r)
    return (.entry path key v, ← lineEnd? r)
  | _ => none

/-- The lines that say something, in order. -/
def document? : Nat → List Char → Option (List Line)
  | 0, _ => none
  | fuel + 1, cs =>
    match skipSpace cs with
    | [] => some []
    | '[' :: r => do
      let (l, r) ← headerLine? r
      return l :: (← document? fuel r)
    | '#' :: r => (lineEnd? ('#' :: r)).bind (document? fuel)
    | '\n' :: r => document? fuel r
    | '\r' :: r => (newline? ('\r' :: r)).bind (document? fuel)
    | r => do
      let (l, r) ← entryLine? (2 * r.length + 2) r
      return l :: (← document? fuel r)

/-- The entries before the first header, and the lines from it on. -/
def leading : List Line → List (List String × String × Toml) × List Line
  | .entry path key v :: ls =>
    let (vs, rest) := leading ls
    ((path, key, v) :: vs, rest)
  | ls => ([], ls)

theorem length_leading_le (ls : List Line) : (leading ls).2.length ≤ ls.length := by
  fun_induction leading ls with
  | case1 path key v ls vs rest h ih => simp_all; omega
  | case2 => exact Nat.le_refl _

/-- Put the lines together, header by header. -/
def assemble (t : Entries) : List Line → Option Entries
  | [] => some t
  | .header path key :: ls =>
    (t.addTable path key (leading ls).1).bind fun t => assemble t (leading ls).2
  | .arrayHeader path key :: ls =>
    (t.addToArray path key (leading ls).1).bind fun t => assemble t (leading ls).2
  | .entry path key v :: ls => (t.addValue v path key).bind fun t => assemble t ls
termination_by ls => ls.length
decreasing_by
  · have := length_leading_le ls; simp; omega
  · have := length_leading_le ls; simp; omega
  · simp

/-- The entries of a whole document. A byte order mark may come first. -/
def read? (s : String) : Option (List (String × Toml)) :=
  let cs := match s.toList with
    | '\uFEFF' :: r => r
    | cs => cs
  do
    let ls ← document? (cs.length + 1) cs
    let t ← assemble [] ls
    return Entries.toToml t

end StreamSource.Toml
