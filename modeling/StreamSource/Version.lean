import StreamSource.Text.Numeral
import StreamSource.Text.Quoted

/-! Versions: three numbers of 64 bits between points, then an optional pre-release
identifier after a hyphen and optional build metadata after a plus sign, each made
of segments between points. Numbers have no leading zero, nor do the segments of
a pre-release that are digits alone. Reading reports the first fault found. -/

namespace StreamSource

structure Version where
  major : Nat
  minor : Nat
  patch : Nat
  preRelease : List Char
  build : List Char
  deriving DecidableEq

namespace Version

inductive Part
  | major
  | minor
  | patch
  | preRelease
  | build
  deriving DecidableEq

def Part.name : Part → String
  | .major => "major version number"
  | .minor => "minor version number"
  | .patch => "patch version number"
  | .preRelease => "pre-release identifier"
  | .build => "build metadata"

inductive Fault
  | empty
  | endsIn (part : Part)
  | strange (part : Part) (c : Char)
  | strangeAfter (part : Part) (c : Char)
  | leadingZero (part : Part)
  | tooLarge (part : Part)
  | emptySegment (part : Part)
  deriving DecidableEq

def Fault.message : Fault → String
  | .empty => "empty string, expected a semver version"
  | .endsIn p => "unexpected end of input while parsing " ++ p.name
  | .strange p c => "unexpected character " ++ Text.quotedChar c ++ " while parsing " ++ p.name
  | .strangeAfter p c => "unexpected character " ++ Text.quotedChar c ++ " after " ++ p.name
  | .leadingZero p => "invalid leading zero in " ++ p.name
  | .tooLarge p => "value of " ++ p.name ++ " exceeds u64::MAX"
  | .emptySegment p => "empty identifier segment in " ++ p.name

/-- The digits of a number, read one by one; `seen` says whether a digit came before. -/
def digits (part : Part) (value : Nat) (seen : Bool) :
    List Char → Except Fault (Nat × List Char)
  | [] => if seen then .ok (value, []) else .error (.endsIn part)
  | c :: cs =>
    if c.isDigit then
      let next := 10 * value + (c.toNat - '0'.toNat)
      if seen && value == 0 then .error (.leadingZero part)
      else if UInt64.size ≤ next then .error (.tooLarge part)
      else digits part next true cs
    else if seen then .ok (value, c :: cs)
    else .error (.strange part c)

def number (part : Part) (cs : List Char) : Except Fault (Nat × List Char) :=
  digits part 0 false cs

def point (part : Part) : List Char → Except Fault (List Char)
  | '.' :: cs => .ok cs
  | c :: _ => .error (.strangeAfter part c)
  | [] => .error (.endsIn part)

def isSegmentChar (c : Char) : Bool := c.isAlphanum || c = '-'

/-- A segment that may not stand in a pre-release: digits after a zero. -/
def hasLeadingZero (segment : List Char) : Bool :=
  segment.all Char.isDigit && 1 < segment.length && segment.head? = some '0'

/-- The segments of an identifier, up to the first character that belongs to none. -/
def segments (part : Part) : Nat → List Char → Except Fault (List Char × List Char)
  | 0, cs => .ok ([], cs)
  | fuel + 1, cs =>
    let segment := cs.takeWhile isSegmentChar
    let rest := cs.drop segment.length
    if segment.isEmpty then .error (.emptySegment part)
    else if part = .preRelease && hasLeadingZero segment then .error (.leadingZero part)
    else match rest with
      | '.' :: r => (segments part fuel r).map fun p => (segment ++ '.' :: p.1, p.2)
      | r => .ok (segment, r)

/-- The identifier that `mark` announces, if the mark is next. -/
def identifier (part : Part) (mark : Char) : List Char → Except Fault (List Char × List Char)
  | [] => .ok ([], [])
  | c :: cs => if c = mark then segments part (cs.length + 1) cs else .ok ([], c :: cs)

/-- The last part that was present, which a character left over comes after. -/
def lastPart (preRelease build : List Char) : Part :=
  if !build.isEmpty then .build else if !preRelease.isEmpty then .preRelease else .patch

def read (cs : List Char) : Except Fault Version := do
  if cs.isEmpty then throw .empty
  let (major, r) ← number .major cs
  let r ← point .major r
  let (minor, r) ← number .minor r
  let r ← point .minor r
  let (patch, r) ← number .patch r
  let (pre, r) ← identifier .preRelease '-' r
  let (build, r) ← identifier .build '+' r
  match r with
  | [] => return ⟨major, minor, patch, pre, build⟩
  | c :: _ => throw (.strangeAfter (lastPart pre build) c)

def numbers (v : Version) : String :=
  Text.showNat v.major ++ "." ++ Text.showNat v.minor ++ "." ++ Text.showNat v.patch

end Version

end StreamSource
