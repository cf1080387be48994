import StreamSource.Json.Basic
import StreamSource.Text.Escaped

/-! Reading one JSON value from a whole text. The grammar is the standard's: four
blanks, no comment, no comma at the end of a list, no control inside a text, and
no half of a surrogate pair alone. A reader of a part gives back the rest. -/

namespace StreamSource.Json

open Text (naturalIn? integer? charOf?)

def isSpace (c : Char) : Bool := c = ' ' || c = '\t' || c = '\n' || c = '\r'

def skipSpace (cs : List Char) : List Char := cs.dropWhile isSpace

def hex4? : List Char → Option (Nat × List Char)
  | a :: b :: c :: d :: r => (naturalIn? 16 [a, b, c, d]).map fun n => (n, r)
  | _ => none

/-- What follows `\u`: one code unit, or the two of a surrogate pair. -/
def unicodeEscape? (cs : List Char) : Option (Char × List Char) := do
  let (a, r) ← hex4? cs
  if 0xD800 ≤ a ∧ a < 0xDC00 then
    match r with
    | '\\' :: 'u' :: r =>
      let (b, r) ← hex4? r
      if 0xDC00 ≤ b ∧ b < 0xE000 then
        let c ← charOf? (0x10000 + (a - 0xD800) * 0x400 + (b - 0xDC00))
        return (c, r)
      else none
    | _ => none
  else
    let c ← charOf? a
    return (c, r)

def shortEscape? : Char → Option Char
  | '"' => some '"'
  | '\\' => some '\\'
  | '/' => some '/'
  | 'b' => some '\x08'
  | 'f' => some '\x0c'
  | 'n' => some '\n'
  | 'r' => some '\r'
  | 't' => some '\t'
  | _ => none

/-- The characters up to the closing quote. -/
def textBody? : Nat → List Char → Option (List Char × List Char)
  | 0, _ => none
  | fuel + 1, cs =>
    match cs with
    | [] => none
    | '"' :: r => some ([], r)
    | '\\' :: 'u' :: r => do
      let (c, r) ← unicodeEscape? r
      let (s, r) ← textBody? fuel r
      return (c :: s, r)
    | '\\' :: e :: r => do
      let c ← shortEscape? e
      let (s, r) ← textBody? fuel r
      return (c :: s, r)
    | c :: r =>
      if c.toNat < 0x20 || c = '\\' then none
      else do
        let (s, r) ← textBody? fuel r
        return (c :: s, r)

def text? (cs : List Char) : Option (String × List Char) :=
  match cs with
  | '"' :: r => (textBody? cs.length r).map fun p => (String.ofList p.1, p.2)
  | _ => none

def spanDigits (cs : List Char) : List Char × List Char :=
  (cs.takeWhile Char.isDigit, cs.dropWhile Char.isDigit)

/-- A point and one or more digits, if a point is next. -/
def fraction? : List Char → Option (List Char × List Char)
  | '.' :: r =>
    let d := spanDigits r
    if d.1.isEmpty then none else some ('.' :: d.1, d.2)
  | r => some ([], r)

/-- A letter `e`, a sign or none, and one or more digits, if such a letter is next. -/
def exponent? : List Char → Option (List Char × List Char)
  | c :: r =>
    if c = 'e' ∨ c = 'E' then
      let sign := r.takeWhile fun c => c = '+' || c = '-'
      let d := spanDigits (r.drop sign.length)
      if d.1.isEmpty || 1 < sign.length then none else some (c :: sign ++ d.1, d.2)
    else some ([], c :: r)
  | [] => some ([], [])

def number? (cs : List Char) : Option (Json × List Char) := do
  let sign := if cs.head? = some '-' then ['-'] else []
  let whole := spanDigits (cs.drop sign.length)
  if whole.1.isEmpty || (whole.1.head? = some '0' && 1 < whole.1.length) then none
  else
    let (f, r) ← fraction? whole.2
    let (e, r) ← exponent? r
    if f.isEmpty && e.isEmpty && (sign ++ whole.1) ≠ ['-', '0'] then
      let n ← integer? (sign ++ whole.1)
      return (.integer n, r)
    else return (.real (sign ++ whole.1 ++ f ++ e), r)

def keyword? (word : String) (j : Json) (cs : List Char) : Option (Json × List Char) :=
  if word.toList.isPrefixOf cs then some (j, cs.drop word.length) else none

mutual

/-- A value and what follows it; `fuel` bounds the brackets and commas passed. -/
def value? : Nat → List Char → Option (Json × List Char)
  | 0, _ => none
  | fuel + 1, cs =>
    match skipSpace cs with
    | '\x7b' :: r =>
      match skipSpace r with
      | '\x7d' :: r => some (.object [], r)
      | r => (members? fuel r).map fun p => (.object p.1, p.2)
    | '[' :: r =>
      match skipSpace r with
      | ']' :: r => some (.array [], r)
      | r => (items? fuel r).map fun p => (.array p.1, p.2)
    | '"' :: r => (text? ('"' :: r)).map fun p => (.text p.1, p.2)
    | 't' :: r => keyword? "true" (.boolean true) ('t' :: r)
    | 'f' :: r => keyword? "false" (.boolean false) ('f' :: r)
    | 'n' :: r => keyword? "null" .null ('n' :: r)
    | r => number? r

/-- The items up to the closing bracket. -/
def items? : Nat → List Char → Option (List Json × List Char)
  | 0, _ => none
  | fuel + 1, cs => do
    let (j, r) ← value? fuel cs
    match skipSpace r with
    | ']' :: r => return ([j], r)
    | ',' :: r =>
      let (js, r) ← items? fuel r
      return (j :: js, r)
    | _ => none

/-- The members up to the closing brace. -/
def members? : Nat → List Char → Option (List (String × Json) × List Char)
  | 0, _ => none
  | fuel + 1, cs => do
    let (k, r) ← text? (skipSpace cs)
    match skipSpace r with
    | ':' :: r =>
      let (j, r) ← value? fuel r
      match skipSpace r with
      | '\x7d' :: r => return ([(k, j)], r)
      | ',' :: r =>
        let (ms, r) ← members? fuel r
        return ((k, j) :: ms, r)
      | _ => none
    | _ => none

end

/-- The value that a whole text writes. -/
def read? (s : String) : Option Json :=
  let cs := s.toList
  (value? (2 * cs.length + 2) cs).bind fun p => if (skipSpace p.2).isEmpty then some p.1 else none

end StreamSource.Json
