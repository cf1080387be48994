import StreamSource.Text.Numeral
import StreamSource.Text.Printable

/-! Texts and characters in quotes, as messages show them. A backslash and the
quote in use are escaped, tab, newline, carriage return and NUL have names, and
any other character without a glyph is written by its number. -/

namespace StreamSource.Text

/-- One character between quotes of the kind `quote`. -/
def escapeChar (quote c : Char) : List Char :=
  if c = '\x00' then ['\\', '0']
  else if c = '\t' then ['\\', 't']
  else if c = '\r' then ['\\', 'r']
  else if c = '\n' then ['\\', 'n']
  else if c = '\\' ∨ c = quote then ['\\', c]
  else if ' ' ≤ c ∧ c ≤ '~' ∨ isPrintable c then [c]
  else ['\\', 'u', '\x7b'] ++ Nat.toDigits 16 c.toNat ++ ['\x7d']

/-- A text in double quotes. -/
def quoted (s : String) : String :=
  "\"" ++ String.ofList (s.toList.flatMap (escapeChar '"')) ++ "\""

/-- A character in single quotes. -/
def quotedChar (c : Char) : String :=
  "'" ++ String.ofList (escapeChar '\'' c) ++ "'"

end StreamSource.Text
