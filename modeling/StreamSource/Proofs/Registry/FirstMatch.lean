import StreamSource.Proofs.Parameters.Lookup
import StreamSource.Proofs.Registry.Changes
import StreamSource.Proofs.Registry.Detection
import StreamSource.Proofs.Text.ByteOrder

/-! A detection is a search for the first match. The candidates are gone through in the order
of their names; those that lack a parameter are passed over and so are those whose parser does
not recognise the stream, until a parser does or a factory answers with any other error. The
registry adds no error of its own, and the hoster is left as the parsers leave it. -/

namespace StreamSource

variable {σ : Type}

namespace PluginEntry

/-- Nothing that the plugin requires is missing, and the factory of its parser answers `r`. -/
structure Answers (ps : Parameters) (e : PluginEntry σ)
    (r : Except Error (StreamParser (Hoster σ))) : Prop where
  required : ∀ n ∈ e.manifest.requiredParameters, ps.contains n = true
  factory : ∃ create, e.factory = some (.parser create) ∧ create ps = r

/-- The plugin lacks a parameter, one that it requires or one that its factory asks for. -/
def Lacks (ps : Parameters) (e : PluginEntry σ) : Prop :=
  (∃ n ∈ e.manifest.requiredParameters, ps.contains n = false) ∨
    ∃ n, e.Answers ps (.error (.missingParameter n))

/-- Whatever is required of a parser is missing or its factory answers. -/
theorem lacks_or_answers (ps : Parameters) {e : PluginEntry σ}
    {create : Parameters → Except Error (StreamParser (Hoster σ))}
    (hfactory : e.factory = some (.parser create)) : e.Lacks ps ∨ e.Answers ps (create ps) := by
  by_cases hrequired : ∀ n ∈ e.manifest.requiredParameters, ps.contains n = true
  · exact .inr ⟨hrequired, create, hfactory, rfl⟩
  · simp only [Classical.not_forall, Bool.not_eq_true] at hrequired
    obtain ⟨n, hn, hmissing⟩ := hrequired
    exact .inl (.inl ⟨n, hn, hmissing⟩)

end PluginEntry

namespace Registry

/-- The hoster once parsers have looked at the stream, one after the other. -/
def lookedAt (h : Hoster σ) (run : List (StreamParser (Hoster σ))) : Hoster σ :=
  run.foldl (fun h p => (p.parse h).2) h

/-- The stream is passed on by every one of the entries. Those that lack a parameter do not
touch the hoster; the parsers of the others, `run`, each look at the stream once and
decline it. -/
inductive PassedOver (ps : Parameters) :
    List (PluginEntry σ) → Hoster σ → List (StreamParser (Hoster σ)) → Prop
  | nil (h : Hoster σ) : PassedOver ps [] h []
  | lacks {e : PluginEntry σ} {es : List (PluginEntry σ)} {h : Hoster σ}
    {run : List (StreamParser (Hoster σ))} (he : e.Lacks ps) (hes : PassedOver ps es h run) :
    PassedOver ps (e :: es) h run
  | declines {e : PluginEntry σ} {es : List (PluginEntry σ)} {h : Hoster σ}
    {run : List (StreamParser (Hoster σ))} {p : StreamParser (Hoster σ)}
    (he : e.Answers ps (.ok p)) (hp : ∀ n, (p.parse h).1 ≠ .ok (.recognized n))
    (hes : PassedOver ps es (p.parse h).2 run) : PassedOver ps (e :: es) h (p :: run)

/-- What ends a detection before the candidates do: a parser that recognises the stream, or a
factory that refuses to build one. -/
inductive Ends (ps : Parameters) (e : PluginEntry σ) (h : Hoster σ) :
    Outcome (Hoster σ) (Option (StreamParser (Hoster σ))) → Prop
  | recognizes {p : StreamParser (Hoster σ)} {n : Nat} (he : e.Answers ps (.ok p))
    (hp : (p.parse h).1 = .ok (.recognized n)) : Ends ps e h (.ok (some p), (p.parse h).2)
  | refuses {err : Error} (he : e.Answers ps (.error err))
    (herr : ∀ n, err ≠ .missingParameter n) : Ends ps e h (.error err, h)

variable {r : Registry σ} {ps : Parameters} {e : PluginEntry σ} {es : List (PluginEntry σ)}
  {h : Hoster σ} {run : List (StreamParser (Hoster σ))}

theorem Ends.fst_ne_none {o : Outcome (Hoster σ) (Option (StreamParser (Hoster σ)))}
    (hends : Ends ps e h o) : o.1 ≠ .ok none := by
  cases hends <;> simp

theorem Ends.refused_of_error {o : Outcome (Hoster σ) (Option (StreamParser (Hoster σ)))}
    (hends : Ends ps e h o) {err : Error} (herr : o.1 = .error err) :
    e.Answers ps (.error err) ∧ ∀ n, err ≠ .missingParameter n := by
  cases hends with
  | recognizes => cases herr
  | refuses he hother =>
    cases herr
    exact ⟨he, hother⟩

theorem Ends.answers_of_found {o : Outcome (Hoster σ) (Option (StreamParser (Hoster σ)))}
    (hends : Ends ps e h o) {p : StreamParser (Hoster σ)} (hfound : o.1 = .ok (some p)) :
    e.Answers ps (.ok p) := by
  cases hends with
  | recognizes he =>
    cases hfound
    exact he
  | refuses => cases hfound

/-! ### Candidates -/

theorem WellFormed.createParser_of_answers (hr : WellFormed r) (he : e ∈ r.candidates .parser)
    {x : Except Error (StreamParser (Hoster σ))} (hx : e.Answers ps x) :
    r.createParser e.manifest.name ps = x := by
  obtain ⟨create, hfactory, hcreate⟩ := hr.createParser_eq he ps
  obtain ⟨create', hfactory', rfl⟩ := hx.factory
  rw [hfactory] at hfactory'
  cases hfactory'
  rw [hcreate, (Parameters.require_eq_ok_iff (u := ())).2 hx.required]
  rfl

theorem WellFormed.createParser_of_lacks (hr : WellFormed r) (he : e ∈ r.candidates .parser)
    (hlacks : e.Lacks ps) :
    ∃ n, r.createParser e.manifest.name ps = .error (.missingParameter n) := by
  rcases hlacks with ⟨n, hn, hmissing⟩ | ⟨n, hn⟩
  · obtain ⟨create, -, hcreate⟩ := hr.createParser_eq he ps
    obtain ⟨m, hm⟩ :=
      Parameters.exists_require_eq_error ⟨n, hn, Bool.eq_false_iff.1 hmissing⟩
    rw [hm] at hcreate
    exact ⟨m, hcreate⟩
  · exact ⟨n, hr.createParser_of_answers he hn⟩

/-- A candidate lacks a parameter, or it is refused or built by its factory. -/
theorem WellFormed.candidate_cases (hr : WellFormed r) (he : e ∈ r.candidates .parser)
    (ps : Parameters) :
    e.Lacks ps ∨ (∃ err, e.Answers ps (.error err) ∧ ∀ n, err ≠ .missingParameter n) ∨
      ∃ p, e.Answers ps (.ok p) := by
  obtain ⟨create, hfactory, -⟩ := hr.createParser_eq he ps
  rcases PluginEntry.lacks_or_answers ps hfactory with hlacks | hanswers
  · exact .inl hlacks
  · cases hcreate : create ps with
    | ok p => exact .inr (.inr ⟨p, hcreate ▸ hanswers⟩)
    | error err =>
      rw [hcreate] at hanswers
      by_cases hmissing : ∃ n, err = .missingParameter n
      · obtain ⟨n, rfl⟩ := hmissing
        exact .inl (.inr ⟨n, hanswers⟩)
      · exact .inr (.inl ⟨err, hanswers, not_exists.1 hmissing⟩)

/-! ### The search -/

/-- Entries that are passed over leave the detection to those after them. -/
theorem WellFormed.detectAmong_of_passedOver (hr : WellFormed r)
    (hes : ∀ e ∈ es, e ∈ r.candidates .parser) (hpassed : PassedOver ps es h run)
    (rest : List (PluginEntry σ)) :
    r.detectAmong ps (es ++ rest) h = r.detectAmong ps rest (lookedAt h run) := by
  induction hpassed with
  | nil h => rfl
  | lacks he _ ih =>
    obtain ⟨n, hn⟩ := hr.createParser_of_lacks (hes _ List.mem_cons_self) he
    rw [List.cons_append, detectAmong_of_missing hn]
    exact ih fun e he => hes e (List.mem_cons_of_mem _ he)
  | declines he hp _ ih =>
    have hcreate := hr.createParser_of_answers (hes _ List.mem_cons_self) he
    rw [List.cons_append, detectAmong_of_declined hcreate hp]
    exact ih fun e he => hes e (List.mem_cons_of_mem _ he)

theorem WellFormed.detectAmong_of_ends (hr : WellFormed r) (he : e ∈ r.candidates .parser)
    {o : Outcome (Hoster σ) (Option (StreamParser (Hoster σ)))} (hends : Ends ps e h o) :
    r.detectAmong ps (e :: es) h = o := by
  cases hends with
  | recognizes hanswers hp =>
    exact detectAmong_of_recognized (hr.createParser_of_answers he hanswers) hp
  | @refuses err hanswers herr =>
    rw [detectAmong, hr.createParser_of_answers he hanswers]
    cases err with
    | missingParameter n => exact absurd rfl (herr n)
    | _ => rfl

/-- All candidates are passed over, or one of them ends the detection. -/
theorem WellFormed.passedOver_or_ends (hr : WellFormed r)
    (hes : ∀ e ∈ es, e ∈ r.candidates .parser) (ps : Parameters) (h : Hoster σ) :
    (∃ run, PassedOver ps es h run) ∨
      ∃ before e rest run o, es = before ++ e :: rest ∧ PassedOver ps before h run ∧
        Ends ps e (lookedAt h run) o := by
  induction es generalizing h with
  | nil => exact .inl ⟨[], .nil h⟩
  | cons e es ih =>
    have ih := ih fun e he => hes e (List.mem_cons_of_mem _ he)
    rcases hr.candidate_cases (hes e List.mem_cons_self) ps with hlacks | ⟨err, he, herr⟩ | ⟨p, he⟩
    · rcases ih h with ⟨run, hrun⟩ | ⟨before, e', rest, run, o, rfl, hrun, hends⟩
      · exact .inl ⟨run, .lacks hlacks hrun⟩
      · exact .inr ⟨e :: before, e', rest, run, o, rfl, .lacks hlacks hrun, hends⟩
    · exact .inr ⟨[], e, es, [], _, rfl, .nil h, .refuses he herr⟩
    · by_cases hp : ∃ n, (p.parse h).1 = .ok (.recognized n)
      · obtain ⟨n, hn⟩ := hp
        exact .inr ⟨[], e, es, [], _, rfl, .nil h, .recognizes he hn⟩
      · have hdeclines := not_exists.1 hp
        rcases ih (p.parse h).2 with ⟨run, hrun⟩ | ⟨before, e', rest, run, o, rfl, hrun, hends⟩
        · exact .inl ⟨p :: run, .declines he hdeclines hrun⟩
        · exact .inr ⟨e :: before, e', rest, p :: run, o, rfl, .declines he hdeclines hrun, hends⟩

theorem WellFormed.detect_eq_iff (hr : WellFormed r) (ps : Parameters) (h : Hoster σ)
    (o : Outcome (Hoster σ) (Option (StreamParser (Hoster σ)))) :
    r.detect ps h = o ↔
      (∃ run, PassedOver ps (r.candidates .parser) h run ∧ o = (.ok none, lookedAt h run)) ∨
        ∃ before e rest run, r.candidates .parser = before ++ e :: rest ∧
          PassedOver ps before h run ∧ Ends ps e (lookedAt h run) o := by
  have hpassed {run} (hrun : PassedOver ps (r.candidates .parser) h run) :
      r.detect ps h = (.ok none, lookedAt h run) := by
    have := hr.detectAmong_of_passedOver (fun _ he => he) hrun []
    rwa [List.append_nil] at this
  have hends {before e rest run o} (heq : r.candidates .parser = before ++ e :: rest)
      (hrun : PassedOver ps before h run) (ho : Ends ps e (lookedAt h run) o) :
      r.detect ps h = o := by
    have hmem : ∀ e' ∈ before ++ e :: rest, e' ∈ r.candidates .parser := fun _ he => heq ▸ he
    rw [detect, heq, hr.detectAmong_of_passedOver
      (fun e' he' => hmem e' (List.mem_append_left _ he')) hrun]
    exact hr.detectAmong_of_ends (hmem e (List.mem_append_right _ List.mem_cons_self)) ho
  constructor
  · rintro rfl
    rcases hr.passedOver_or_ends (fun _ he => he) ps h with
      ⟨run, hrun⟩ | ⟨before, e, rest, run, o, heq, hrun, ho⟩
    · exact .inl ⟨run, hrun, hpassed hrun⟩
    · exact .inr ⟨before, e, rest, run, heq, hrun, hends heq hrun ho ▸ ho⟩
  · rintro (⟨run, hrun, rfl⟩ | ⟨before, e, rest, run, heq, hrun, ho⟩)
    · exact hpassed hrun
    · exact hends heq hrun ho

/-- What is detected was built as a candidate. -/
theorem WellFormed.exists_candidate_of_detect (hr : WellFormed r) {p : StreamParser (Hoster σ)}
    (hfound : (r.detect ps h).1 = .ok (some p)) :
    ∃ e ∈ r.candidates .parser, r.createParser e.manifest.name ps = .ok p := by
  rcases (hr.detect_eq_iff ps h _).1 rfl with
    ⟨run, -, heq⟩ | ⟨before, e, rest, run, heq, -, hends⟩
  · rw [heq] at hfound
    cases hfound
  · have he : e ∈ r.candidates .parser := by
      rw [heq]
      exact List.mem_append_right _ List.mem_cons_self
    exact ⟨e, he, hr.createParser_of_answers he (hends.answers_of_found hfound)⟩

/-- After any run, the enabled parsers that have a factory are the candidates, in the order of
the bytes of their names. A detection passes over all of them and finds nothing, or it passes
over those before the one that ends it; it fails only with the answer of a factory. -/
theorem detect_first_match (cs : List (Change σ)) (ps : Parameters) (h : Hoster σ) :
    let r := (empty : Registry σ).after cs
    ∃ es : List (PluginEntry σ),
      (∀ e, e ∈ es ↔ e ∈ r.list ∧ e.status = .enabled ∧ e.manifest.kind = .parser ∧
        e.factory.isSome = true) ∧
      es.Pairwise (fun a b => Text.utf8 a.manifest.name < Text.utf8 b.manifest.name) ∧
      (∀ o, r.detect ps h = o ↔
        (∃ run, PassedOver ps es h run ∧ o = (.ok none, lookedAt h run)) ∨
          ∃ before e rest run, es = before ++ e :: rest ∧ PassedOver ps before h run ∧
            Ends ps e (lookedAt h run) o) ∧
      ((r.detect ps h).1 = .ok none ↔ ∃ run, PassedOver ps es h run) ∧
      ∀ err, (r.detect ps h).1 = .error err →
        ∃ e ∈ es, e.Answers ps (.error err) ∧ ∀ n, err ≠ .missingParameter n := by
  intro r
  have hr : WellFormed r := wellFormed_after cs
  have hiff := hr.detect_eq_iff ps h
  refine ⟨r.candidates .parser, fun e => mem_candidates_iff, ?_, hiff, ⟨?_, ?_⟩, ?_⟩
  · exact (hr.pairwise_candidates .parser).imp Text.lt_iff_utf8_lt.1
  · intro hnone
    rcases (hiff _).1 rfl with ⟨run, hrun, -⟩ | ⟨before, e, rest, run, -, -, hends⟩
    · exact ⟨run, hrun⟩
    · exact absurd hnone hends.fst_ne_none
  · rintro ⟨run, hrun⟩
    rw [(hiff _).2 (.inl ⟨run, hrun, rfl⟩)]
  · intro err herr
    rcases (hiff _).1 rfl with ⟨run, -, heq⟩ | ⟨before, e, rest, run, heq, -, hends⟩
    · rw [heq] at herr
      cases herr
    · refine ⟨e, ?_, hends.refused_of_error herr⟩
      rw [heq]
      exact List.mem_append_right _ List.mem_cons_self

end Registry

end StreamSource
