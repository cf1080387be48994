import StreamSource.Binary64.Reader
import StreamSource.Settings.Layer
import StreamSource.Text.Blank
import StreamSource.Text.Escaped

/-! The value of an environment variable: a flag, a number, a quoted text or character,
an array or table in brackets, or else plain text up to the next bracket or comma.
A text that does not read whole as one value stands for itself. -/

namespace StreamSource.Environment

open Text

def isSpace (c : Char) : Bool := c = ' ' || c = '\t' || c = '\n' || c = '\r' || c = '\x0c'

def skipSpace (cs : List Char) : List Char := cs.dropWhile isSpace

/-- A character that ends a plain word. -/
def isSeparator (c : Char) : Bool :=
  c = ',' || c = '\x7b' || c = '\x7d' || c = '[' || c = ']'

def isKeyChar (c : Char) : Bool := c.isAlphanum || c = '_' || c = '-'

/-- A plain word is a number if it reads as one, with a point a float, and else a text. -/
def plain (cs : List Char) : Scalar :=
  let w := trim cs
  let integer :=
    match unsigned? 64 w with
    | some n => .unsigned n
    | none =>
      match int64? w with
      | some n => .signed n.toInt
      | none => .text (String.ofList w)
  if w.contains '.' then
    match Binary64.read? w with
    | some x => .float x
    | none => integer
  else integer

/-- The longest start of a text that has no more than `size` bytes. -/
def firstBytes (size : Nat) : List Char → List Char
  | [] => []
  | c :: cs => if c.utf8Size ≤ size then c :: firstBytes (size - c.utf8Size) cs else []

/-- The text after an opening quote, and the rest after the closing one. If there is an
escape, the text before the first one is cut to as many bytes as it has characters. -/
def quoted? (cs : List Char) : Option (String × List Char) :=
  let before := cs.takeWhile fun c => c ≠ '"' && c ≠ '\\'
  match cs.drop before.length with
  | '\\' :: r =>
    if before.all isTextChar then
      (escaped? ('\\' :: r)).map fun p =>
        (String.ofList (firstBytes before.length before) ++ p.1, p.2)
    else none
  | _ => escaped? cs

def key? (cs : List Char) : Option (String × List Char) :=
  match cs with
  | '"' :: r => quoted? r
  | _ =>
    let k := cs.takeWhile isKeyChar
    if k.isEmpty then none else some (String.ofList k, cs.drop k.length)

def scalar (s : Scalar) : Setting := .scalar .environment s

mutual

/-- A value with the spaces around it, and the rest. -/
def value? : Nat → List Char → Option (Setting × List Char)
  | 0, _ => none
  | fuel + 1, cs =>
    let cs := skipSpace cs
    let bare :=
      some (scalar (plain (cs.takeWhile (!isSeparator ·))), cs.dropWhile (!isSeparator ·))
    match cs with
    | '\x7b' :: r =>
      (pairs? fuel r).map fun p =>
        (.table .environment (p.1.foldl (fun t e => Entry.insert t e.1 e.2) []), skipSpace p.2)
    | '[' :: r => (items? fuel r).map fun p => (.array .environment p.1, skipSpace p.2)
    | '"' :: r => (quoted? r).map fun p => (scalar (.text p.1), skipSpace p.2)
    | '\'' :: c :: '\'' :: r => some (scalar (.character c), skipSpace r)
    | '\'' :: _ => none
    | _ =>
      if "true".toList.isPrefixOf cs then
        some (scalar (.boolean true), skipSpace (cs.drop 4))
      else if "false".toList.isPrefixOf cs then
        some (scalar (.boolean false), skipSpace (cs.drop 5))
      else bare

/-- The items of an array up to its closing bracket; a comma may come before it. -/
def items? : Nat → List Char → Option (List Setting × List Char)
  | 0, _ => none
  | fuel + 1, cs =>
    match cs with
    | ']' :: r => some ([], r)
    | cs => do
      let (v, r) ← value? fuel cs
      match r with
      | ',' :: r =>
        let (vs, r) ← items? fuel r
        return (v :: vs, r)
      | ']' :: r => return ([v], r)
      | _ => none

/-- The entries of a table up to its closing brace; a comma may come before it. -/
def pairs? : Nat → List Char → Option (List (String × Setting) × List Char)
  | 0, _ => none
  | fuel + 1, cs =>
    match cs with
    | '\x7d' :: r => some ([], r)
    | cs => do
      let (k, r) ← key? (skipSpace cs)
      match skipSpace r with
      | '=' :: r =>
        let (v, r) ← value? fuel r
        match r with
        | ',' :: r =>
          let (es, r) ← pairs? fuel r
          return ((k, v) :: es, r)
        | '\x7d' :: r => return ([(k, v)], r)
        | _ => none
      | _ => none

end

/-- The setting that the value of a variable makes. -/
def settingOf (value : String) : Setting :=
  let cs := value.toList
  match value? (2 * cs.length + 2) cs with
  | some (v, []) => v
  | _ => scalar (.text value)

end StreamSource.Environment
