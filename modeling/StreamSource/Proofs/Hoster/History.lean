import StreamSource.Proofs.Hoster.Calls
import StreamSource.Proofs.Protocol.Kinds

/-! Opening a URL makes a hoster of forgetful protocols forget its past. Two hosters that
began with the same protocols may differ in what their idle protocols went through; once both are
told to open one URL, they answer alike from then on. -/

namespace StreamSource.Hoster

open ByteStream Protocol

variable {σ : Type} [Protocol σ] {ps : List σ} {h₁ h₂ : Hoster σ}

def answers (h : Hoster σ) (steps : List Step) : List Answer := (h.run steps).map (·.1)

theorem answers_cons (h : Hoster σ) (s : Step) (steps : List Step) :
    answers h (s :: steps) = (h.step s).1 :: answers (h.step s).2 steps := rfl

/-! ### Offers -/

/-- The protocols are those of `ps` after calls on some of them. -/
def CameFrom (ps qs : List σ) : Prop := ∃ made, qs = perform ps made

theorem CameFrom.perform {qs : List σ} (h : CameFrom ps qs) (calls : List (Nat × StreamStep)) :
    CameFrom ps (perform qs calls) := by
  obtain ⟨made, rfl⟩ := h
  exact ⟨made ++ calls, (perform_append ps made calls).symm⟩

theorem CameFrom.length_eq {qs : List σ} (h : CameFrom ps qs) : qs.length = ps.length := by
  obtain ⟨made, rfl⟩ := h
  exact length_perform ps made

/-- Each protocol came about by calls on the one in its place. -/
theorem CameFrom.getElem? {qs : List σ} (h : CameFrom ps qs) (i : Nat) :
    ∃ made, qs[i]? = ps[i]?.map fun p => ByteStream.after p made := by
  obtain ⟨made, rfl⟩ := h
  exact ⟨callsOn i made, getElem?_perform ps made i⟩

section Forgetful
variable {qs : List σ} (hps : ∀ p ∈ ps, Forgetful p) (hqs : CameFrom ps qs) (url : String)
include hps hqs

/-- What forgetful protocols answer at once to an offer they answer at any time. -/
theorem supporting_of_forgetful : supporting url qs = supporting url ps := by
  unfold supporting
  rw [hqs.length_eq]
  refine List.filter_congr fun i _ => ?_
  obtain ⟨made, hi⟩ := hqs.getElem? i
  rw [hi]
  cases hp : ps[i]? with
  | none => rfl
  | some p => exact (hps p (List.mem_of_getElem? hp)).supports made url

theorem opensAt_of_forgetful : opensAt url qs = opensAt url ps := by
  funext i
  unfold opensAt
  obtain ⟨made, hi⟩ := hqs.getElem? i
  rw [hi]
  cases hp : ps[i]? with
  | none => rfl
  | some p =>
    exact congrArg Except.isOk ((hps p (List.mem_of_getElem? hp)).openUrl made url)

theorem refusalAt?_of_forgetful : refusalAt? url qs = refusalAt? url ps := by
  funext i
  unfold refusalAt?
  obtain ⟨made, hi⟩ := hqs.getElem? i
  rw [hi]
  cases hp : ps[i]? with
  | none => rfl
  | some p =>
    rw [Option.map_some, Option.bind_some, Option.bind_some,
      (hps p (List.mem_of_getElem? hp)).openUrl made url]

theorem opener?_of_forgetful : opener? url qs = opener? url ps := by
  unfold opener?
  rw [supporting_of_forgetful hps hqs, opensAt_of_forgetful hps hqs]

theorem tried_of_forgetful : tried url qs = tried url ps := by
  unfold tried
  rw [supporting_of_forgetful hps hqs, opensAt_of_forgetful hps hqs]

end Forgetful

/-! ### Hosters in step -/

/-- Two hosters of the protocols `ps` that no calls tell apart from now on. Nothing is said of
the protocols that are not active. -/
structure InStep (ps : List σ) (h₁ h₂ : Hoster σ) : Prop where
  left : CameFrom ps h₁.protocols
  right : CameFrom ps h₂.protocols
  active : h₁.active = h₂.active
  alike : ∀ (i : Nat) p q, h₁.active = some i → h₁.protocols[i]? = some p →
    h₂.protocols[i]? = some q → Alike p q

theorem openUrl_fst_of_forgetful (hps : ∀ p ∈ ps, Forgetful p) {h : Hoster σ}
    (hfrom : CameFrom ps h.protocols) (url : String) :
    (openUrl url h).1 =
      match opener? url ps with
      | some _ => .ok ()
      | none => .error (((supporting url ps).getLast?.bind (refusalAt? url ps)).getD
          (unsupported url)) := by
  have hclosed : CameFrom ps h.closed := hfrom.perform _
  rw [openUrl_eq, opener?_of_forgetful hps hclosed, supporting_of_forgetful hps hclosed,
    refusalAt?_of_forgetful hps hclosed]
  cases opener? url ps <;> rfl

/-- The protocol that opens a URL is like one that opened nothing before. -/
theorem alike_opener (hps : ∀ p ∈ ps, Forgetful p) {qs : List σ} (hqs : CameFrom ps qs)
    {url : String} {i : Nat} {q : σ} (hi : opener? url ps = some i)
    (hq : (perform qs (openings url qs))[i]? = some q) :
    ∃ p, ps[i]? = some p ∧ Alike q (ByteStream.openUrl url p).2 := by
  obtain ⟨htried, hopens⟩ := opener?_eq_some_iff.1 hi
  obtain ⟨p, hp, hok⟩ := opensAt_iff.1 hopens
  obtain ⟨made, hmade⟩ := hqs.getElem? i
  rw [getElem?_perform_openings, tried_of_forgetful hps hqs, hmade, hp, Option.map_some,
    Option.map_some, if_pos htried] at hq
  refine ⟨p, hp, ?_⟩
  cases hq
  refine (hps p (List.mem_of_getElem? hp)).later made url ?_
  cases hr : (ByteStream.openUrl url p).1 with
  | ok u => rfl
  | error e => simp [hr] at hok

/-- Opening a URL brings any two hosters of the same forgetful protocols in step. -/
theorem InStep.openUrl (hps : ∀ p ∈ ps, Forgetful p) (hleft : CameFrom ps h₁.protocols)
    (hright : CameFrom ps h₂.protocols) (url : String) :
    (h₁.step (.stream (.openUrl url))).1 = (h₂.step (.stream (.openUrl url))).1 ∧
      InStep ps (h₁.step (.stream (.openUrl url))).2 (h₂.step (.stream (.openUrl url))).2 := by
  have hleft' : CameFrom ps h₁.closed := hleft.perform _
  have hright' : CameFrom ps h₂.closed := hright.perform _
  constructor
  · have hanswer : (Hoster.openUrl url h₁).1 = (Hoster.openUrl url h₂).1 := by
      rw [openUrl_fst_of_forgetful hps hleft, openUrl_fst_of_forgetful hps hright]
    exact congrArg (fun r => Answer.stream (.ofExcept (fun _ => .done) r)) hanswer
  · rw [step_snd, step_snd]
    refine ⟨hleft.perform _, hright.perform _, ?_, fun i q₁ q₂ hi hq₁ hq₂ => ?_⟩
    · exact (opener?_of_forgetful hps hleft' url).trans (opener?_of_forgetful hps hright' url).symm
    · have hi : opener? url ps = some i := (opener?_of_forgetful hps hleft' url).symm.trans hi
      rw [calls, perform_append] at hq₁ hq₂
      obtain ⟨p, hp, halike₁⟩ := alike_opener hps hleft' hi hq₁
      obtain ⟨p', hp', halike₂⟩ := alike_opener hps hright' hi hq₂
      obtain rfl : p = p' := Option.some.inj (hp.symm.trans hp')
      exact halike₁.trans halike₂.symm

/-- In step, both hosters have an active protocol or neither does. -/
theorem InStep.activeProtocol? (h : InStep ps h₁ h₂) :
    (h₁.activeProtocol? = none ∧ h₂.activeProtocol? = none) ∨
      ∃ p q, h₁.activeProtocol? = some p ∧ h₂.activeProtocol? = some q ∧ Alike p q := by
  unfold Hoster.activeProtocol?
  rw [← h.active]
  cases hactive : h₁.active with
  | none => exact .inl ⟨rfl, rfl⟩
  | some i =>
    have hlength : h₁.protocols.length = h₂.protocols.length :=
      h.left.length_eq.trans h.right.length_eq.symm
    rw [Option.bind_some, Option.bind_some]
    by_cases hi : i < h₁.protocols.length
    · have hp := List.getElem?_eq_getElem hi
      have hq := List.getElem?_eq_getElem (hlength ▸ hi)
      exact .inr ⟨_, _, hp, hq, h.alike i _ _ hactive hp hq⟩
    · exact .inl ⟨List.getElem?_eq_none (by omega), List.getElem?_eq_none (by omega)⟩

/-- A call that alike protocols answer alike is answered alike by hosters in step. -/
theorem InStep.callActive_fst {α : Type} (h : InStep ps h₁ h₂) {f : σ → Outcome σ α}
    (hf : ∀ p q, Alike p q → (f p).1 = (f q).1) :
    (h₁.callActive f).1 = (h₂.callActive f).1 := by
  rw [Hoster.callActive_fst, Hoster.callActive_fst]
  obtain ⟨hp, hq⟩ | ⟨p, q, hp, hq, halike⟩ := h.activeProtocol?
  · rw [hp, hq]
  · rw [hp, hq]
    exact hf p q halike

theorem InStep.close_fst (h : InStep ps h₁ h₂) : h₁.close.1 = h₂.close.1 := by
  by_cases hactive : h₁.active.isSome = true
  · rw [Hoster.close_fst hactive, Hoster.close_fst (h.active ▸ hactive)]
    obtain ⟨hp, hq⟩ | ⟨p, q, hp, hq, halike⟩ := h.activeProtocol?
    · rw [hp, hq]
    · rw [hp, hq]
      exact halike.close_eq
  · have hnone : h₁.active = none := by simpa using hactive
    rw [close_of_none hnone, close_of_none (h.active ▸ hnone)]

theorem InStep.activeName? (h : InStep ps h₁ h₂) : h₁.activeName? = h₂.activeName? := by
  unfold Hoster.activeName?
  obtain ⟨hp, hq⟩ | ⟨p, q, hp, hq, halike⟩ := h.activeProtocol?
  · rw [hp, hq]
  · rw [hp, hq]
    exact congrArg some halike.name_eq

/-- A call on the active protocols keeps the hosters in step. -/
theorem InStep.pass (h : InStep ps h₁ h₂) (c : StreamStep) :
    InStep ps ⟨perform h₁.protocols (h₁.onActive c), h₁.active⟩
      ⟨perform h₂.protocols (h₂.onActive c), h₂.active⟩ where
  left := h.left.perform _
  right := h.right.perform _
  active := h.active
  alike i q₁ q₂ hi hq₁ hq₂ := by
    rw [getElem?_perform_onActive] at hq₁ hq₂
    obtain ⟨p₁, hp₁, rfl⟩ := Option.map_eq_some_iff.1 hq₁
    obtain ⟨p₂, hp₂, rfl⟩ := Option.map_eq_some_iff.1 hq₂
    rw [if_pos hi, if_pos (h.active ▸ hi)]
    exact (h.alike i p₁ p₂ hi hp₁ hp₂).step c

theorem InStep.step (hps : ∀ p ∈ ps, Forgetful p) (h : InStep ps h₁ h₂) (s : Step) :
    (h₁.step s).1 = (h₂.step s).1 ∧ InStep ps (h₁.step s).2 (h₂.step s).2 := by
  cases s with
  | active =>
    exact ⟨congrArg Answer.name? h.activeName?, h⟩
  | stream c =>
    cases c with
    | openUrl url => exact InStep.openUrl hps h.left h.right url
    | read position length =>
      refine ⟨?_, by rw [step_snd, step_snd]; exact h.pass _⟩
      exact congrArg (fun r => Answer.stream (.ofExcept .bytes r))
        (h.callActive_fst fun p q halike => halike.read_eq position length)
    | seek position =>
      refine ⟨?_, by rw [step_snd, step_snd]; exact h.pass _⟩
      exact congrArg (fun r => Answer.stream (.ofExcept .position r))
        (h.callActive_fst fun p q halike => halike.seek_eq position)
    | close =>
      refine ⟨congrArg (fun r => Answer.stream (.ofExcept (fun _ => .done) r)) h.close_fst, ?_⟩
      rw [step_snd, step_snd]
      exact ⟨h.left.perform _, h.right.perform _, rfl, fun i p q hi => by cases hi⟩

/-- Hosters in step answer every run alike. -/
theorem InStep.answers_eq (hps : ∀ p ∈ ps, Forgetful p) (h : InStep ps h₁ h₂) (steps : List Step) :
    answers h₁ steps = answers h₂ steps := by
  induction steps generalizing h₁ h₂ with
  | nil => rfl
  | cons s steps ih =>
    obtain ⟨hanswer, hnext⟩ := h.step hps s
    rw [answers_cons, answers_cons, hanswer, ih hnext]

/-! ### Histories -/

/-- Whatever was done before with a hoster of forgetful protocols, opening a URL and all calls
after it are answered in the same way. The protocols from memory and those that follow a script
are forgetful. -/
theorem answers_openUrl_of_histories :
    (∀ p : HostedProtocol, Forgetful p) ∧
    ∀ {σ : Type} [Protocol σ] {ps : List σ}, (∀ p ∈ ps, Forgetful p) →
      ∀ (before before' : List Step) (url : String) (later : List Step),
        answers (Hoster.after ⟨ps, none⟩ before) (.stream (.openUrl url) :: later) =
          answers (Hoster.after ⟨ps, none⟩ before') (.stream (.openUrl url) :: later) := by
  refine ⟨HostedProtocol.forgetful, fun {σ _ ps} hps before before' url later => ?_⟩
  obtain ⟨hanswer, hnext⟩ := InStep.openUrl hps (exists_after_protocols ⟨ps, none⟩ before)
    (exists_after_protocols ⟨ps, none⟩ before') url
  rw [answers_cons, answers_cons, hanswer, hnext.answers_eq hps later]

/-- A tape that cannot be closed stays open, and this does not show. -/
theorem answers_openUrl_of_tape :
    let tape : HostedProtocol := .scripted { name := "tape", urlStart := "t", failing := [.close] }
    let disk : HostedProtocol := .memory { name := "disk", schemes := ["d"], body := [1, 2] }
    (∀ p ∈ [tape, disk], Forgetful p) ∧
      answers (Hoster.after ⟨[tape, disk], none⟩ [.stream (.openUrl "t://a"), .stream .close])
          [.stream (.openUrl "d://b"), .stream (.read 0 2), .stream .close, .active] =
        answers ⟨[tape, disk], none⟩
          [.stream (.openUrl "d://b"), .stream (.read 0 2), .stream .close, .active] := by
  intro tape disk
  have hps : ∀ p ∈ [tape, disk], Forgetful p := fun p _ => answers_openUrl_of_histories.1 p
  exact ⟨hps, answers_openUrl_of_histories.2 hps _ [] _ _⟩

end StreamSource.Hoster
