import StreamSource.Binary64.Reader
import StreamSource.Toml.Basic

/-! TOML numbers, flags and dates. Such a scalar is one word of letters, digits and a
few marks, so it is read as a whole; only a date may go on, after one space, with a
time. Digits may be parted by single underscores. -/

namespace StreamSource.Toml

open Text

def isWordChar (c : Char) : Bool :=
  c.isAlphanum || c = '_' || c = '+' || c = '-' || c = '.' || c = ':'

/-- Digits of one kind, single underscores allowed between two of them. -/
def bareDigits? (isDigit : Char → Bool) : List Char → Option (List Char)
  | [] => none
  | [c] => if isDigit c then some [c] else none
  | c :: '_' :: r => if isDigit c then (bareDigits? isDigit r).map (c :: ·) else none
  | c :: r => if isDigit c then (bareDigits? isDigit r).map (c :: ·) else none

def splitSign : List Char → List Char × List Char
  | '+' :: r => (['+'], r)
  | '-' :: r => (['-'], r)
  | r => ([], r)

/-- Decimal digits without a zero before other digits. -/
def decimalDigits? (cs : List Char) : Option (List Char) :=
  (bareDigits? Char.isDigit cs).filter fun ds => ds.head? ≠ some '0' || ds.length = 1

/-- The word of 64 bits that holds an integer. -/
def fits? (n : Int) : Option Int64 :=
  if Int64.minValue.toInt ≤ n ∧ n ≤ Int64.maxValue.toInt then some (Int64.ofInt n) else none

/-- A numeral in a base that a letter after a zero announces. -/
def basedInteger? (base : Nat) (cs : List Char) : Option Int64 :=
  (bareDigits? (fun c => (digit? base c).isSome) cs).bind fun ds =>
    (naturalIn? base ds).bind fun n => fits? n

def integerWord? : List Char → Option Int64
  | '0' :: 'x' :: r => basedInteger? 16 r
  | '0' :: 'o' :: r => basedInteger? 8 r
  | '0' :: 'b' :: r => basedInteger? 2 r
  | cs =>
    let s := splitSign cs
    (decimalDigits? s.2).bind fun ds => (Text.integer? (s.1 ++ ds)).bind fits?

/-- The exponent of a float with its letter, or nothing at all. -/
def exponentPart? : List Char → Option (List Char)
  | [] => some []
  | c :: r =>
    if c = 'e' ∨ c = 'E' then
      let s := splitSign r
      (bareDigits? Char.isDigit s.2).map fun ds => 'e' :: s.1 ++ ds
    else none

def isExponentMark (c : Char) : Bool := c = 'e' || c = 'E'

/-- A float with a fraction, an exponent or both. One beyond the range upward is refused. -/
def decimalFloat? (cs : List Char) : Option Binary64 := do
  let s := splitSign cs
  let mantissa := s.2.takeWhile fun c => !isExponentMark c
  let rest := s.2.dropWhile fun c => !isExponentMark c
  let whole ← decimalDigits? (mantissa.takeWhile (· ≠ '.'))
  let fraction ← match mantissa.dropWhile (· ≠ '.') with
    | [] => some []
    | _ :: r => (bareDigits? Char.isDigit r).map ('.' :: ·)
  let e ← exponentPart? rest
  if fraction.isEmpty && e.isEmpty then none
  else (Binary64.read? (s.1 ++ whole ++ fraction ++ e)).filter fun x => !x.isPositiveInfinity

def specialFloat? (cs : List Char) : Option Binary64 :=
  let s := splitSign cs
  if s.2 = "inf".toList then some (.infinite (s.1 = ['-']))
  else if s.2 = "nan".toList then some .nan
  else none

/-- A number of exactly `width` digits between two bounds. -/
def field? (width low high : Nat) (cs : List Char) : Option (Nat × List Char) :=
  let ds := cs.take width
  if ds.length = width then
    ((natural? ds).filter fun n => low ≤ n && n ≤ high).map fun n => (n, cs.drop width)
  else none

def mark? (c : Char) : List Char → Option (List Char)
  | d :: r => if d = c then some r else none
  | [] => none

def isLeap (year : Nat) : Bool := year % 4 = 0 && (year % 100 ≠ 0 || year % 400 = 0)

def daysIn (year month : Nat) : Nat :=
  if month = 2 then (if isLeap year then 29 else 28)
  else if month = 4 ∨ month = 6 ∨ month = 9 ∨ month = 11 then 30
  else 31

/-- A calendar date in its normal form, and the rest. -/
def date? (cs : List Char) : Option (String × List Char) := do
  let (year, r) ← field? 4 0 9999 cs
  let (month, r) ← field? 2 1 12 (← mark? '-' r)
  let (day, r) ← field? 2 1 (daysIn year month) (← mark? '-' r)
  return (showPadded 4 year ++ "-" ++ showPadded 2 month ++ "-" ++ showPadded 2 day, r)

/-- Up to nine digits of a second, without zeros at the end. -/
def secondFraction? : List Char → Option (String × List Char)
  | '.' :: r =>
    let ds := r.takeWhile Char.isDigit
    if ds.isEmpty then none
    else
      let kept := ((ds.take 9).reverse.dropWhile (· = '0')).reverse
      some (String.ofList (if kept.isEmpty then [] else '.' :: kept), r.drop ds.length)
  | r => some ("", r)

def time? (cs : List Char) : Option (String × List Char) := do
  let (hour, r) ← field? 2 0 23 cs
  let (minute, r) ← field? 2 0 59 (← mark? ':' r)
  let (second, r) ← field? 2 0 60 (← mark? ':' r)
  let (fraction, r) ← secondFraction? r
  return (showPadded 2 hour ++ ":" ++ showPadded 2 minute ++ ":" ++ showPadded 2 second
    ++ fraction, r)

def offset? : List Char → Option String
  | [] => some ""
  | 'Z' :: [] => some "Z"
  | 'z' :: [] => some "Z"
  | sign :: r => do
    if sign ≠ '+' ∧ sign ≠ '-' then none
    let (hour, r) ← field? 2 0 23 r
    let (minute, r) ← field? 2 0 59 (← mark? ':' r)
    if !r.isEmpty then none
    let shown := if hour = 0 ∧ minute = 0 then '+' else sign
    return String.ofList [shown] ++ showPadded 2 hour ++ ":" ++ showPadded 2 minute

/-- A date, a time or both, in the normal form. -/
def dateWord? (cs : List Char) : Option String :=
  match date? cs with
  | some (d, []) => some d
  | some (d, mark :: r) =>
    if mark = 'T' ∨ mark = 't' ∨ mark = ' ' then do
      let (t, r) ← time? r
      let o ← offset? r
      return d ++ "T" ++ t ++ o
    else none
  | none =>
    match time? cs with
    | some (t, []) => some t
    | _ => none

def word? (cs : List Char) : Option Toml :=
  if cs = "true".toList then some (.boolean true)
  else if cs = "false".toList then some (.boolean false)
  else (dateWord? cs).map .date
    <|> (specialFloat? cs).map .float
    <|> (decimalFloat? cs).map .float
    <|> (integerWord? cs).map .integer

/-- A scalar that is no text, and the rest. -/
def scalar? (cs : List Char) : Option (Toml × List Char) :=
  let w := cs.takeWhile isWordChar
  let r := cs.dropWhile isWordChar
  let longer := match r with
    | ' ' :: r =>
      let t := r.takeWhile isWordChar
      if (date? w).any (·.2.isEmpty) && !t.isEmpty then
        (dateWord? (w ++ ' ' :: t)).map fun d => (Toml.date d, r.drop t.length)
      else none
    | _ => none
  longer <|> (word? w).map fun v => (v, r)

end StreamSource.Toml
