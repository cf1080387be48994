import StreamSource.ByteStream.Step
import StreamSource.Hoster.Basic

/-! Runs over a hoster: calls on it as a byte stream, and the question which of its
protocols is active. -/

namespace StreamSource.Hoster

variable {σ : Type} [Protocol σ]

inductive Step
  | stream (s : StreamStep)
  | active
  deriving DecidableEq

inductive Answer
  | stream (a : StreamAnswer)
  | name? (name : Option String)
  deriving DecidableEq

def step (h : Hoster σ) : Step → Answer × Hoster σ
  | .stream s => (ByteStream.step h s).map .stream id
  | .active => (.name? h.activeName?, h)

/-- The answers of a run, each with the hoster after the step. -/
def run (h : Hoster σ) : List Step → List (Answer × Hoster σ)
  | [] => []
  | s :: steps => h.step s :: run (h.step s).2 steps

/-- The hoster after a run. -/
def after (h : Hoster σ) (steps : List Step) : Hoster σ := steps.foldl (fun h s => (h.step s).2) h

end StreamSource.Hoster
