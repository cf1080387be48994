import StreamSource.Binary64.Basic
import StreamSource.Text.Numeral

/-! Reading a number from text: an optional sign, then one of the words for the
infinities and for not a number, or digits with at most one point among them and
an optional exponent. At least one digit stands before or after the point. -/

namespace StreamSource.Binary64

open Text

def digitsOf (cs : List Char) : List Char × List Char :=
  (cs.takeWhile Char.isDigit, cs.dropWhile Char.isDigit)

/-- The number after the letter of an exponent. -/
def exponent? : List Char → Option Int
  | [] => some 0
  | c :: cs => if c = 'e' ∨ c = 'E' then integer? cs else none

/-- Digits, point, digits and exponent. -/
def unsigned? (negative : Bool) (cs : List Char) : Option Binary64 :=
  let whole := digitsOf cs
  let fraction := match whole.2 with
    | '.' :: r => digitsOf r
    | r => ([], r)
  if whole.1.isEmpty && fraction.1.isEmpty then none
  else do
    let m ← natural? (whole.1 ++ fraction.1)
    let e ← exponent? fraction.2
    return ofDecimal negative m (e - fraction.1.length)

def word? (negative : Bool) (cs : List Char) : Option Binary64 :=
  let w := String.ofList (cs.map Char.toLower)
  if w = "inf" ∨ w = "infinity" then some (.infinite negative)
  else if w = "nan" then some .nan
  else none

def read? : List Char → Option Binary64
  | '-' :: cs => word? true cs <|> unsigned? true cs
  | '+' :: cs => word? false cs <|> unsigned? false cs
  | cs => word? false cs <|> unsigned? false cs

end StreamSource.Binary64
