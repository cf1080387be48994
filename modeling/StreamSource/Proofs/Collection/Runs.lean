import StreamSource.Collection.Step

/-! Runs of steps on collections. A step decides the contents of one register, most often of the
one that it works on, and leaves those of all others alone. All that it can do is one of six
outcomes, from which the statements about runs are derived. -/

namespace StreamSource.Collection

variable {α : Type}

/-- The collection in a register. -/
def held (r : Registers (Collection α)) (name : String) : Collection α := r.getD name empty

theorem held_put (r : Registers (Collection α)) (name : String) (c : Collection α) (n : String) :
    held (r.put name c) n = if n = name then c else held r n :=
  r.getD_put name c n empty

theorem held_put_held (r : Registers (Collection α)) (name : String) :
    held (r.put name (held r name)) = held r :=
  funext fun n => r.getD_put_getD name n empty

theorem ite_held (r : Registers (Collection α)) (place name : String) :
    (if name = place then held r place else held r name) = held r name := by
  split
  · rename_i h
    rw [h]
  · rfl

variable [Copyable α]

/-- A step on the register `on` may answer so and leave `d` in the register `place`. -/
inductive Step.Outcome (r : Registers (Collection α)) (on : String) :
    Step α → Answer α → String → Collection α → Prop
  | alone {s a d} (h : s.local? (held r on) = some (a, d)) : Outcome r on s a on d
  | copied {target d} (h : (held r on).copy = .ok d) :
    Outcome r on (.copy target) (.items d.items) target d
  | notCopied {target e} (h : (held r on).copy = .error e) :
    Outcome r on (.copy target) (.failed e) on (held r on)
  | appended {source d} (h : (held r on).append (held r source) = .ok d) :
    Outcome r on (.append source) .succeeded on d
  | notAppended {source e} (h : (held r on).append (held r source) = .error e) :
    Outcome r on (.append source) (.failed e) on (held r on)
  | compared {other b} : Outcome r on (.equals other) (.accepted b) on (held r on)

variable [DecidableEq α]

/-- Whatever a step does is one of the outcomes. -/
theorem Step.exists_outcome (r : Registers (Collection α)) (on : String) (s : Step α) :
    ∃ a place d, Outcome r on s a place d ∧ (s.run on r).1 = a ∧
      ∀ name, held (s.run on r).2 name = if name = place then d else held r name := by
  -- A register springs up empty when a step names it, which changes nothing that is held.
  have hput (place : String) (d : Collection α) (name : String) :
      held ((r.put on (held r on)).put place d) name =
        if name = place then d else held r name := by
    rw [held_put, held_put_held]
  cases s with
  | copy target =>
    unfold Step.run
    dsimp only
    cases hcopy : (r.getD on empty).copy with
    | ok d => exact ⟨_, target, d, .copied hcopy, rfl, hput target d⟩
    | error e => exact ⟨_, on, _, .notCopied hcopy, rfl, held_put r on _⟩
  | append source =>
    have hsource (name : String) :
        held ((r.put on (held r on)).put source (held r source)) name = held r name :=
      (hput source _ name).trans (ite_held r source name)
    unfold Step.run
    dsimp only
    rw [r.getD_put_getD]
    cases happend : (r.getD on empty).append (r.getD source empty) with
    | ok d =>
      refine ⟨_, on, d, .appended happend, rfl, fun name => ?_⟩
      rw [← hsource name]
      exact held_put _ on d name
    | error e =>
      exact ⟨_, on, _, .notAppended happend, rfl,
        fun name => (hsource name).trans (ite_held r on name).symm⟩
  | equals other => exact ⟨_, on, _, .compared, rfl, held_put r on _⟩
  | _ => exact ⟨_, on, _, .alone rfl, rfl, hput on _⟩

/-! ### Runs -/

/-- The registers after a run. -/
def after (r : Registers (Collection α)) : List (String × Step α) → Registers (Collection α)
  | [] => r
  | (on, s) :: steps => after (s.run on r).2 steps

theorem after_append (r : Registers (Collection α)) (steps steps' : List (String × Step α)) :
    after r (steps ++ steps') = after (after r steps) steps' := by
  induction steps generalizing r with
  | nil => rfl
  | cons step steps ih => exact ih (step.2.run step.1 r).2

/-- What a run shows of a step: its answer, and what the steps so far have made of its register. -/
theorem getElem?_run (r : Registers (Collection α)) (steps : List (String × Step α)) (i : Nat) :
    (run r steps)[i]? = steps[i]?.map fun step =>
      ((step.2.run step.1 (after r (steps.take i))).1,
        held (after r (steps.take (i + 1))) step.1) := by
  induction steps generalizing r i with
  | nil => rfl
  | cons step steps ih =>
    cases i with
    | zero => rfl
    | succ i => exact ih (step.2.run step.1 r).2 i

end StreamSource.Collection
