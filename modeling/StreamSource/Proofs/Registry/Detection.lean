import StreamSource.Proofs.Registry.Entries

/-! Detections among candidates that can be built unless they lack a parameter. If their
parsers recognise the stream whatever was done with the hoster before, then what earlier
candidates do to the hoster does not matter, and the first that recognises the stream is found. -/

namespace StreamSource.Registry

variable {σ : Type} {r : Registry σ} {ps : Parameters} {e : PluginEntry σ}
  {es : List (PluginEntry σ)} {p : StreamParser (Hoster σ)}

theorem detectAmong_of_missing {n : String}
    (he : r.createParser e.manifest.name ps = .error (.missingParameter n)) (h : Hoster σ) :
    r.detectAmong ps (e :: es) h = r.detectAmong ps es h := by
  rw [detectAmong, he]

theorem detectAmong_of_recognized {h : Hoster σ} {n : Nat}
    (he : r.createParser e.manifest.name ps = .ok p) (hp : (p.parse h).1 = .ok (.recognized n)) :
    r.detectAmong ps (e :: es) h = (.ok (some p), (p.parse h).2) := by
  have hparse : p.parse h = (.ok (.recognized n), (p.parse h).2) := Prod.ext hp rfl
  rw [detectAmong, he]
  simp only
  rw [hparse]

theorem detectAmong_of_declined {h : Hoster σ} (he : r.createParser e.manifest.name ps = .ok p)
    (hp : ∀ n, (p.parse h).1 ≠ .ok (.recognized n)) :
    r.detectAmong ps (e :: es) h = r.detectAmong ps es (p.parse h).2 := by
  rw [detectAmong, he]
  -- `hp` rules out the first case of the match on the outcome
  simp only

/-- A candidate that lacks a parameter, or is built and recognises the stream in all states
of the hoster in which `Inv` holds, or in none of them. Its parser keeps `Inv`. -/
inductive Steady (r : Registry σ) (ps : Parameters) (Inv : Hoster σ → Prop) (accepts : Bool)
    (e : PluginEntry σ) : Prop
  | lacks (n : String) (he : r.createParser e.manifest.name ps = .error (.missingParameter n))
    (haccepts : accepts = false)
  | built (p : StreamParser (Hoster σ)) (he : r.createParser e.manifest.name ps = .ok p)
    (hname : p.name = e.manifest.name)
    (hparse : ∀ h, Inv h → Inv (p.parse h).2 ∧
      ((∃ n, (p.parse h).1 = .ok (.recognized n)) ↔ accepts = true))

theorem detectAmong_of_steady {Inv : Hoster σ → Prop} {accepts : PluginEntry σ → Bool}
    (hes : ∀ e ∈ es, Steady r ps Inv (accepts e) e) {h : Hoster σ} (hinv : Inv h) :
    Inv (r.detectAmong ps es h).2 ∧ ∃ found, (r.detectAmong ps es h).1 = .ok found ∧
      found.map (·.name) = (es.find? accepts).map (·.manifest.name) := by
  induction es generalizing h with
  | nil => exact ⟨hinv, none, rfl, rfl⟩
  | cons e es ih =>
    have ih {h : Hoster σ} := ih (h := h) fun e he => hes e (List.mem_cons_of_mem _ he)
    rw [List.find?_cons]
    cases hes e List.mem_cons_self with
    | lacks n he haccepts =>
      rw [detectAmong_of_missing he, haccepts]
      exact ih hinv
    | built p he hname hparse =>
      obtain ⟨hnext, hrecognizes⟩ := hparse h hinv
      cases haccepts : accepts e with
      | true =>
        obtain ⟨n, hn⟩ := hrecognizes.2 haccepts
        rw [detectAmong_of_recognized he hn]
        exact ⟨hnext, some p, rfl, congrArg some hname⟩
      | false =>
        have hdeclines : ∀ n, (p.parse h).1 ≠ .ok (.recognized n) := fun n hn => by
          rw [hrecognizes.1 ⟨n, hn⟩] at haccepts
          cases haccepts
        rw [detectAmong_of_declined he hdeclines]
        exact ih hnext

end StreamSource.Registry
