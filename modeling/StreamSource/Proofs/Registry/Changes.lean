import StreamSource.Proofs.Registry.Entries

/-! Runs of the calls that change a registry. Plugins are registered and switched on and off,
and their statuses are refreshed, in any order; the registry stays well-formed throughout. -/

namespace StreamSource

/-- What a plugin is registered with. -/
structure Registration (σ : Type) where
  manifest : PluginManifest
  factory : Option (PluginFactory σ) := none
  status : PluginStatus := .enabled

namespace Registration

variable {σ : Type}

/-- What the registry keeps of a registration. -/
def entry (g : Registration σ) : PluginEntry σ :=
  ⟨g.manifest, g.status, g.factory.filter fun f => f.kind = g.manifest.kind⟩

end Registration

namespace Registry

inductive Change (σ : Type)
  | register (g : Registration σ)
  | setEnabled (name : String) (on : Bool)
  | refresh (ps : Parameters)

variable {σ : Type}

/-- The registry after a call. Switching a name that is not registered fails, and changes
nothing. -/
def changed (r : Registry σ) : Change σ → Registry σ
  | .register g => r.register g.manifest g.factory g.status
  | .setEnabled name on =>
    match r.setEnabled name on with
    | .ok r' => r'
    | .error _ => r
  | .refresh ps => r.refresh ps

/-- The registry after a run. -/
def after (r : Registry σ) (cs : List (Change σ)) : Registry σ := cs.foldl changed r

@[simp] theorem after_nil (r : Registry σ) : r.after [] = r := rfl

@[simp] theorem after_cons (r : Registry σ) (c : Change σ) (cs : List (Change σ)) :
    r.after (c :: cs) = (r.changed c).after cs := rfl

theorem after_append (r : Registry σ) (cs ds : List (Change σ)) :
    r.after (cs ++ ds) = (r.after cs).after ds :=
  List.foldl_append

theorem after_concat (r : Registry σ) (cs : List (Change σ)) (c : Change σ) :
    r.after (cs ++ [c]) = (r.after cs).changed c :=
  r.after_append cs [c]

/-! ### Look-ups after a call -/

theorem get?_changed_register (r : Registry σ) (g : Registration σ) (name : String) :
    (r.changed (.register g)).get? name =
      if g.manifest.name = name then some g.entry else r.get? name :=
  r.get?_register g.manifest g.factory g.status name

theorem changed_setEnabled_of_ok {r r' : Registry σ} {name : String} {on : Bool}
    (h : r.setEnabled name on = .ok r') : r.changed (.setEnabled name on) = r' := by
  simp only [changed, h]

theorem changed_setEnabled_of_error {r : Registry σ} {name : String} {on : Bool} {err : Error}
    (h : r.setEnabled name on = .error err) : r.changed (.setEnabled name on) = r := by
  simp only [changed, h]

theorem get?_changed_setEnabled (r : Registry σ) (name : String) (on : Bool) (k : String) :
    (r.changed (.setEnabled name on)).get? k =
      (r.get? k).map fun e => if name = k then { e with status := switched on } else e := by
  cases hset : r.setEnabled name on with
  | ok r' =>
    rw [changed_setEnabled_of_ok hset]
    exact (setEnabled_eq_ok hset).2 k
  | error err =>
    rw [changed_setEnabled_of_error hset]
    cases he : r.get? name with
    | some e =>
      rw [setEnabled, he] at hset
      cases hset
    | none =>
      by_cases hk : name = k
      · rw [← hk, he]
        rfl
      · simp only [if_neg hk, Option.map_id']

theorem get?_changed_refresh (r : Registry σ) (ps : Parameters) (name : String) :
    (r.changed (.refresh ps)).get? name = (r.get? name).map (·.refreshed ps) :=
  r.get?_refresh ps name

/-! ### Runs keep a registry well-formed -/

theorem WellFormed.changed {r : Registry σ} (hr : WellFormed r) (c : Change σ) :
    WellFormed (r.changed c) := by
  cases c with
  | register g => exact hr.register g.manifest g.factory g.status
  | setEnabled name on =>
    cases hset : r.setEnabled name on with
    | ok r' => exact changed_setEnabled_of_ok hset ▸ hr.setEnabled hset
    | error err => exact (changed_setEnabled_of_error hset).symm ▸ hr
  | refresh ps => exact hr.refresh ps

theorem WellFormed.after {r : Registry σ} (hr : WellFormed r) (cs : List (Change σ)) :
    WellFormed (r.after cs) := by
  induction cs generalizing r with
  | nil => exact hr
  | cons c cs ih => exact ih (hr.changed c)

theorem wellFormed_after (cs : List (Change σ)) : WellFormed ((empty : Registry σ).after cs) :=
  WellFormed.empty.after cs

end Registry

end StreamSource
