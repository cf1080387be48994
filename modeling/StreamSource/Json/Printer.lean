import StreamSource.Json.Basic
import StreamSource.Text.Numeral

/-! The two written forms of a JSON value. The compact one has no blank; the spaced
one puts every item and member on a line of its own, two spaces deeper than the
bracket around it. A text is written with the short escapes where there is one,
with `\u` for the other controls, and with all else as it is. -/

namespace StreamSource.Json

open Text

def hexDigits (width n : Nat) : List Char :=
  let ds := Nat.toDigits 16 n
  List.replicate (width - ds.length) '0' ++ ds

def escape (c : Char) : List Char :=
  if c = '"' then ['\\', '"']
  else if c = '\\' then ['\\', '\\']
  else if c = '\x08' then ['\\', 'b']
  else if c = '\x0c' then ['\\', 'f']
  else if c = '\n' then ['\\', 'n']
  else if c = '\r' then ['\\', 'r']
  else if c = '\t' then ['\\', 't']
  else if c.toNat < 0x20 then ['\\', 'u'] ++ hexDigits 4 c.toNat
  else [c]

def textChars (s : String) : List Char := '"' :: s.toList.flatMap escape ++ ['"']

def scalarChars : Json → List Char
  | .boolean true => "true".toList
  | .boolean false => "false".toList
  | .integer n => (showInt n).toList
  | .real cs => cs
  | .text s => textChars s
  | _ => "null".toList

mutual

def compactChars : Json → List Char
  | .array items => '[' :: compactItems items ++ [']']
  | .object members => '\x7b' :: compactMembers members ++ ['\x7d']
  | .null => "null".toList
  | .boolean b => scalarChars (.boolean b)
  | .integer n => scalarChars (.integer n)
  | .real cs => cs
  | .text s => textChars s

def compactItems : List Json → List Char
  | [] => []
  | [j] => compactChars j
  | j :: js => compactChars j ++ ',' :: compactItems js

def compactMembers : List (String × Json) → List Char
  | [] => []
  | [(k, j)] => textChars k ++ ':' :: compactChars j
  | (k, j) :: ms => textChars k ++ ':' :: compactChars j ++ ',' :: compactMembers ms

end

def newline (depth : Nat) : List Char := '\n' :: List.replicate (2 * depth) ' '

mutual

def spacedChars (depth : Nat) : Json → List Char
  | .array [] => ['[', ']']
  | .array items => '[' :: spacedItems (depth + 1) items ++ newline depth ++ [']']
  | .object [] => ['\x7b', '\x7d']
  | .object members =>
    '\x7b' :: spacedMembers (depth + 1) members ++ newline depth ++ ['\x7d']
  | .null => "null".toList
  | .boolean b => scalarChars (.boolean b)
  | .integer n => scalarChars (.integer n)
  | .real cs => cs
  | .text s => textChars s

def spacedItems (depth : Nat) : List Json → List Char
  | [] => []
  | [j] => newline depth ++ spacedChars depth j
  | j :: js => newline depth ++ spacedChars depth j ++ ',' :: spacedItems depth js

def spacedMembers (depth : Nat) : List (String × Json) → List Char
  | [] => []
  | [(k, j)] => newline depth ++ textChars k ++ ':' :: ' ' :: spacedChars depth j
  | (k, j) :: ms =>
    newline depth ++ textChars k ++ ':' :: ' ' :: spacedChars depth j
      ++ ',' :: spacedMembers depth ms

end

def compact (j : Json) : String := String.ofList (compactChars j)

def spaced (j : Json) : String := String.ofList (spacedChars 0 j)

end StreamSource.Json
