/-! Numerals. A natural number is one or more digits, an integer may have one
sign before them, and nothing else (no separator, no blank) is accepted. The
written form is the canonical one: no plus sign and no leading zero. -/

namespace StreamSource.Text

/-- The value of a digit below `base`, letters in either case standing for ten and up. -/
def digit? (base : Nat) (c : Char) : Option Nat :=
  let value :=
    if c.isDigit then some (c.toNat - '0'.toNat)
    else if 'a' ≤ c ∧ c ≤ 'z' then some (c.toNat - 'a'.toNat + 10)
    else if 'A' ≤ c ∧ c ≤ 'Z' then some (c.toNat - 'A'.toNat + 10)
    else none
  value.filter (· < base)

/-- The number that digits write in `base`, the first being the most significant. -/
def ofDigits (base : Nat) (ds : List Nat) : Nat := ds.foldl (fun n d => base * n + d) 0

def naturalIn? (base : Nat) (cs : List Char) : Option Nat :=
  if cs.isEmpty then none else (cs.mapM (digit? base)).map (ofDigits base)

def natural? (cs : List Char) : Option Nat := naturalIn? 10 cs

def integer? : List Char → Option Int
  | '+' :: ds => (natural? ds).map Int.ofNat
  | '-' :: ds => (natural? ds).map fun n => -Int.ofNat n
  | ds => (natural? ds).map Int.ofNat

/-- The signed word of 64 bits for a number in its range. -/
def wordOf? (n : Int) : Option Int64 :=
  if Int64.minValue.toInt ≤ n ∧ n ≤ Int64.maxValue.toInt then some (Int64.ofInt n) else none

/-- Ten times a word and one digit more, or one digit less behind a minus sign. Neither the product
nor what the digit makes of it may leave the range. -/
def pushDigit? (negative : Bool) (n : Int64) (c : Char) : Option Int64 := do
  let d ← digit? 10 c
  let m ← wordOf? (n.toInt * 10)
  wordOf? (if negative then m.toInt - d else m.toInt + d)

/-- The word that digits make one after the other, from zero on. -/
def pushDigits? (negative : Bool) (ds : List Char) : Option Int64 :=
  if ds.isEmpty then none else ds.foldlM (pushDigit? negative) 0

/-- A numeral whose number a signed word of 64 bits holds. -/
def int64? : List Char → Option Int64
  | '+' :: ds => pushDigits? false ds
  | '-' :: ds => pushDigits? true ds
  | ds => pushDigits? false ds

/-- A numeral, with no minus sign, whose number an unsigned word of `bits` bits holds. -/
def unsigned? (bits : Nat) (cs : List Char) : Option Nat :=
  (natural? (if cs.head? = some '+' then cs.tail else cs)).filter (· < Nat.pow 2 bits)

def showNat (n : Nat) : String := String.ofList (Nat.toDigits 10 n)

def showInt : Int → String
  | .ofNat n => showNat n
  | .negSucc n => "-" ++ showNat (n + 1)

/-- At least `width` digits, with zeros before them where needed. -/
def showPadded (width n : Nat) : String :=
  let ds := Nat.toDigits 10 n
  String.ofList (List.replicate (width - ds.length) '0' ++ ds)

def showHex (n : Nat) : String := String.ofList (Nat.toDigits 16 n)

theorem digit?_lt {base d : Nat} {c : Char} (h : digit? base c = some d) : d < base := by
  simpa using (Option.filter_eq_some_iff.1 h).2

end StreamSource.Text
