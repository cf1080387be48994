import StreamSource.Parser.Basic

/-! A parser whose answer is fixed beforehand, so that it leaves the hoster alone. Some of
the answers are failures, and two of these already prevent it from being built. -/

namespace StreamSource

inductive FixedAnswer
  | result (r : ParseResult)
  | parseFails
  | refusesToBuild
  | lacksParameter
  deriving DecidableEq

namespace FixedAnswer

def version : String := "1.2.3"

/-- The name of the parameter that is said to be missing. -/
def lacking : String := "Inner"

def parse {η : Type} (a : FixedAnswer) (h : η) : Outcome η ParseResult :=
  match a with
  | .result r => (.ok r, h)
  | _ => (.error (.protocol .truncatedHeader), h)

def create {η : Type} (name : String) (a : FixedAnswer) : Except Error (StreamParser η) :=
  match a with
  | .refusesToBuild => .error (.internal (.refused name))
  | .lacksParameter => .error (.missingParameter lacking)
  | a => .ok { name := name, version := version, parse := a.parse }

end FixedAnswer

end StreamSource
