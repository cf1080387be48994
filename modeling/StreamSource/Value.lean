import StreamSource.Json.Basic
import StreamSource.Text.Blank
import StreamSource.Text.Numeral

/-! Parameter values: a text, an integer of 64 bits or a flag. A reader may ask for
any of the three; texts are read with the blanks around them removed. -/

namespace StreamSource

inductive ParameterValue
  | text (s : String)
  | integer (n : Int64)
  | boolean (b : Bool)
  deriving DecidableEq

namespace ParameterValue

/-- A flag written as a word, in any ASCII letter case. -/
def flag? (cs : List Char) : Option Bool :=
  let w := String.ofList (cs.map Char.toLower)
  if w = "1" ∨ w = "true" ∨ w = "yes" then some true
  else if w = "0" ∨ w = "false" ∨ w = "no" then some false
  else none

/-- The value as an integer: a text must be a numeral that fits, a flag is none. -/
def asInteger? : ParameterValue → Option Int64
  | .text s => Text.int64? (Text.trim s.toList)
  | .integer n => some n
  | .boolean _ => none

/-- The value as a flag: any integer but zero is true. -/
def asBoolean? : ParameterValue → Option Bool
  | .text s => flag? (Text.trim s.toList)
  | .integer n => some (n ≠ 0)
  | .boolean b => some b

def flagText (b : Bool) : String := if b then "true" else "false"

/-- The value as text. -/
def display : ParameterValue → String
  | .text s => s
  | .integer n => Text.showInt n.toInt
  | .boolean b => flagText b

def toJson : ParameterValue → Json
  | .text s => .text s
  | .integer n => .integer n.toInt
  | .boolean b => .boolean b

/-- Only texts, flags and the integers that fit are parameter values. -/
def ofJson? : Json → Option ParameterValue
  | .text s => some (.text s)
  | .integer n =>
    if Int64.minValue.toInt ≤ n ∧ n ≤ Int64.maxValue.toInt then some (.integer (Int64.ofInt n))
    else none
  | .boolean b => some (.boolean b)
  | _ => none

theorem ofJson?_toJson (v : ParameterValue) : ofJson? v.toJson = some v := by
  cases v with
  | text s => rfl
  | integer n =>
    simp only [toJson, ofJson?]
    rw [if_pos ⟨Int64.minValue_le_toInt n, Int64.toInt_le n⟩, Int64.ofInt_toInt]
  | boolean b => rfl

end ParameterValue

end StreamSource
