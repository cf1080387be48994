import StreamSource.Text.Numeral

/-! Texts with backslash escapes, up to the double quote that closes them. Seven
escapes name a character, two number one with four or eight hexadecimal digits.
Of the controls only a tab may stand for itself. -/

namespace StreamSource.Text

/-- The character of a code point that is no surrogate. -/
def charOf? (n : Nat) : Option Char := if n.isValidChar then some (Char.ofNat n) else none

/-- A character that a text may hold as it is. -/
def isTextChar (c : Char) : Bool := c = '\t' || (0x20 ≤ c.toNat && c.toNat ≠ 0x7F)

def namedEscape? : Char → Option Char
  | 'b' => some '\x08'
  | 't' => some '\t'
  | 'n' => some '\n'
  | 'f' => some '\x0c'
  | 'r' => some '\r'
  | '"' => some '"'
  | '\\' => some '\\'
  | _ => none

/-- The character that `width` hexadecimal digits number. -/
def numberedEscape? (width : Nat) (cs : List Char) : Option (Char × List Char) :=
  if cs.length < width then none
  else (naturalIn? 16 (cs.take width)).bind fun n =>
    (charOf? n).map fun c => (c, cs.drop width)

/-- What follows a backslash. -/
def escape? : List Char → Option (Char × List Char)
  | 'u' :: r => numberedEscape? 4 r
  | 'U' :: r => numberedEscape? 8 r
  | c :: r => (namedEscape? c).map fun d => (d, r)
  | [] => none

def escapedBody? : Nat → List Char → Option (List Char × List Char)
  | 0, _ => none
  | fuel + 1, cs =>
    match cs with
    | [] => none
    | '"' :: r => some ([], r)
    | '\\' :: r => do
      let (c, r) ← escape? r
      let (s, r) ← escapedBody? fuel r
      return (c :: s, r)
    | c :: r =>
      if isTextChar c then (escapedBody? fuel r).map fun p => (c :: p.1, p.2) else none

/-- The text after an opening quote, and the rest after the closing one. -/
def escaped? (cs : List Char) : Option (String × List Char) :=
  (escapedBody? (cs.length + 1) cs).map fun p => (String.ofList p.1, p.2)

end StreamSource.Text
