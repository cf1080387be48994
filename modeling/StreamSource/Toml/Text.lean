import StreamSource.Text.Escaped
import StreamSource.Toml.Basic

/-! TOML texts: basic ones with escapes and literal ones without, each on one line or,
between three quotes, on several. A line break at the very start is dropped, any
other counts as a line feed, and one after a backslash vanishes with the blanks
around it. -/

namespace StreamSource.Toml

open Text

def isSpace (c : Char) : Bool := c = ' ' || c = '\t'

def skipSpace (cs : List Char) : List Char := cs.dropWhile isSpace

/-- The rest after a line break. -/
def newline? : List Char → Option (List Char)
  | '\n' :: r => some r
  | '\r' :: '\n' :: r => some r
  | _ => none

/-- The characters of a literal text up to its closing quote. -/
def literalBody? (cs : List Char) : Option (List Char × List Char) :=
  let s := cs.takeWhile (· ≠ '\'')
  match cs.drop s.length with
  | [] => none
  | _ :: r => if s.all isTextChar then some (s, r) else none

/-- The spaces and line breaks that a backslash at the end of a line swallows. -/
def swallow : List Char → List Char
  | '\r' :: '\n' :: r => swallow r
  | c :: r => if isSpace c || c = '\n' then swallow r else c :: r
  | [] => []

/-- The characters of a text on several lines. A run of the quote ends it from three
on, the run's first characters, two at most, being part of the text. -/
def linesBody? (quote : Char) (escapes : Bool) : Nat → List Char → Option (List Char × List Char)
  | 0, _ => none
  | fuel + 1, cs =>
    match newline? cs with
    | some r => (linesBody? quote escapes fuel r).map fun p => ('\n' :: p.1, p.2)
    | none =>
      match cs with
      | [] => none
      | c :: r =>
        if c = quote then
          let run := (c :: r).takeWhile (· = quote)
          let rest := (c :: r).drop run.length
          if run.length < 3 then
            (linesBody? quote escapes fuel rest).map fun p => (run ++ p.1, p.2)
          else if run.length ≤ 5 then some (run.drop 3, rest)
          else none
        else if c = '\\' && escapes then
          match newline? (skipSpace r) with
          | some r => linesBody? quote escapes fuel (swallow r)
          | none => do
            let (d, r) ← escape? r
            let (s, r) ← linesBody? quote escapes fuel r
            return (d :: s, r)
        else if isTextChar c then
          (linesBody? quote escapes fuel r).map fun p => (c :: p.1, p.2)
        else none

def lines? (quote : Char) (escapes : Bool) (cs : List Char) : Option (List Char × List Char) :=
  linesBody? quote escapes (cs.length + 1) ((newline? cs).getD cs)

/-- A text on one line. -/
def lineText? : List Char → Option (String × List Char)
  | '"' :: r => escaped? r
  | '\'' :: r => (literalBody? r).map fun p => (String.ofList p.1, p.2)
  | _ => none

/-- A text of any of the four kinds. -/
def text? : List Char → Option (String × List Char)
  | '"' :: '"' :: '"' :: r => (lines? '"' true r).map fun p => (String.ofList p.1, p.2)
  | '\'' :: '\'' :: '\'' :: r => (lines? '\'' false r).map fun p => (String.ofList p.1, p.2)
  | cs => lineText? cs

end StreamSource.Toml
