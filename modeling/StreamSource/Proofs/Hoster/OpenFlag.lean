import StreamSource.Proofs.Hoster.Calls
import StreamSource.Proofs.Protocol.Kinds

/-! Which protocols of a hoster are open. Whatever calls are made on a hoster whose
protocols start closed, its active protocol is one of its own and is open, so that no read finds
it closed; and if closing never fails, no other protocol is open. -/

namespace StreamSource.Hoster

open ByteStream Protocol

variable {σ : Type} [Protocol σ] {isOpen : σ → Bool} {unopened : StreamFault → Prop}

/-- After any calls the protocol still keeps its flag. -/
def KeepsFlag (isOpen : σ → Bool) (unopened : StreamFault → Prop) (p : σ) : Prop :=
  ∀ made, Flagged isOpen unopened (ByteStream.after p made)

/-- After any calls the protocol can be closed. -/
def AlwaysCloses (p : σ) : Prop :=
  ∀ made, (ByteStream.close (ByteStream.after p made)).1 = .ok ()

theorem KeepsFlag.flagged {p : σ} (hp : KeepsFlag isOpen unopened p) :
    Flagged isOpen unopened p := hp []

theorem KeepsFlag.after {p : σ} (hp : KeepsFlag isOpen unopened p) (made : List StreamStep) :
    KeepsFlag isOpen unopened (ByteStream.after p made) := fun more => by
  rw [← ByteStream.after_append]
  exact hp _

theorem AlwaysCloses.after {p : σ} (hp : AlwaysCloses p) (made : List StreamStep) :
    AlwaysCloses (ByteStream.after p made) := fun more => by
  rw [← ByteStream.after_append]
  exact hp _

/-- A protocol that is served from memory can always be closed. -/
theorem alwaysCloses_memory (p : MemoryProtocol) :
    AlwaysCloses (HostedProtocol.memory p) := fun made => by
  rw [HostedProtocol.wraps_memory.after]
  rfl

/-! ### The active protocol is open -/

structure ActiveOpen (isOpen : σ → Bool) (unopened : StreamFault → Prop) (h : Hoster σ) : Prop where
  keeps : ∀ p ∈ h.protocols, KeepsFlag isOpen unopened p
  active_open : ∀ i, h.active = some i → ∃ p, h.protocols[i]? = some p ∧ isOpen p = true

/-- A call that does not change its flag leaves the active protocol open. -/
theorem ActiveOpen.pass {h : Hoster σ} (hinv : ActiveOpen isOpen unopened h) {c : StreamStep}
    (hc : ∀ p ∈ h.protocols, isOpen (ByteStream.step p c).2 = isOpen p) {i : Nat}
    (hi : h.active = some i) :
    ∃ p, (perform h.protocols (h.onActive c))[i]? = some p ∧ isOpen p = true := by
  obtain ⟨p, hp, hopen⟩ := hinv.active_open i hi
  refine ⟨(ByteStream.step p c).2, ?_, by rw [hc p (List.mem_of_getElem? hp), hopen]⟩
  rw [getElem?_perform_onActive, hp, Option.map_some, if_pos hi]

/-- The opener is open once the URL was offered. -/
theorem isOpen_opener {ps : List σ} (hps : ∀ p ∈ ps, KeepsFlag isOpen unopened p) {url : String}
    {i : Nat} (hi : opener? url ps = some i) :
    ∃ p, (perform ps (openings url ps))[i]? = some p ∧ isOpen p = true := by
  obtain ⟨htried, hopens⟩ := opener?_eq_some_iff.1 hi
  obtain ⟨p, hp, hok⟩ := opensAt_iff.1 hopens
  refine ⟨(ByteStream.openUrl url p).2, ?_, ?_⟩
  · rw [getElem?_perform_openings, hp, Option.map_some, if_pos htried]
  · rw [(hps p (List.mem_of_getElem? hp)).flagged.openUrl, hok, Bool.true_or]

theorem ActiveOpen.step {h : Hoster σ} (hinv : ActiveOpen isOpen unopened h) (s : Step) :
    ActiveOpen isOpen unopened (h.step s).2 := by
  refine ⟨forall_step (fun _ made hp => hp.after made) hinv.keeps s, fun i hi => ?_⟩
  rw [step_snd] at hi ⊢
  cases s with
  | active => exact hinv.active_open i hi
  | stream c =>
    cases c with
    | openUrl url =>
      rw [calls, perform_append]
      exact isOpen_opener (forall_perform (fun _ made hp => hp.after made) hinv.keeps _) hi
    | read position length =>
      exact hinv.pass (c := .read position length)
        (fun p hp => (hinv.keeps p hp).flagged.read position length) hi
    | seek position =>
      exact hinv.pass (c := .seek position)
        (fun p hp => (hinv.keeps p hp).flagged.seek position) hi
    | close => cases hi

theorem ActiveOpen.after {h : Hoster σ} (hinv : ActiveOpen isOpen unopened h) (steps : List Step) :
    ActiveOpen isOpen unopened (h.after steps) := by
  induction steps generalizing h with
  | nil => exact hinv
  | cons s steps ih => exact ih (hinv.step s)

/-- A read never finds the active protocol closed. -/
theorem ActiveOpen.read_ne {h : Hoster σ} (hinv : ActiveOpen isOpen unopened h)
    (position : UInt64) (length : Nat) {f : StreamFault} (hf : unopened f) :
    (ByteStream.read position length h).1 ≠ .error (.protocol f) := by
  cases hactive : h.active with
  | none =>
    have hread : ByteStream.read position length h = (.error .noActiveProtocol, h) :=
      callActive_of_none hactive _
    simp [hread]
  | some i =>
    obtain ⟨p, hp, hopen⟩ := hinv.active_open i hactive
    have hread : (ByteStream.read position length h).1 = (ByteStream.read position length p).1 := by
      have hfst := callActive_fst h (ByteStream.read position length)
      rwa [activeProtocol?_eq hactive hp] at hfst
    rw [hread]
    exact (hinv.keeps p (List.mem_of_getElem? hp)).flagged.read_open hopen position length f hf

/-! ### No other protocol is open -/

structure OnlyActiveOpen (isOpen : σ → Bool) (unopened : StreamFault → Prop) (h : Hoster σ) :
    Prop where
  keeps : ∀ p ∈ h.protocols, KeepsFlag isOpen unopened p
  closes : ∀ p ∈ h.protocols, AlwaysCloses p
  active_of_open : ∀ (i : Nat) p, h.protocols[i]? = some p → isOpen p = true → h.active = some i

/-- Once the active protocol is closed, none is open. -/
theorem OnlyActiveOpen.isOpen_closed {h : Hoster σ} (hinv : OnlyActiveOpen isOpen unopened h)
    {i : Nat} {q : σ} (hq : h.closed[i]? = some q) : isOpen q = false := by
  rw [closed, getElem?_perform_onActive] at hq
  obtain ⟨p, hp, rfl⟩ := Option.map_eq_some_iff.1 hq
  have hmem : p ∈ h.protocols := List.mem_of_getElem? hp
  split
  · have hclose : (ByteStream.close p).1 = .ok () := hinv.closes p hmem []
    rw [step_close, (hinv.keeps p hmem).flagged.close, hclose, isOk_ok, Bool.not_true,
      Bool.and_false]
  · rename_i hne
    exact Bool.eq_false_iff.2 fun hopen => hne (hinv.active_of_open i p hp hopen)

/-- If a call does not change its flag, the active protocol stays the only open one. -/
theorem OnlyActiveOpen.pass {h : Hoster σ} (hinv : OnlyActiveOpen isOpen unopened h)
    {c : StreamStep} (hc : ∀ p ∈ h.protocols, isOpen (ByteStream.step p c).2 = isOpen p) {i : Nat}
    {q : σ} (hq : (perform h.protocols (h.onActive c))[i]? = some q) (hopen : isOpen q = true) :
    h.active = some i := by
  rw [getElem?_perform_onActive] at hq
  obtain ⟨p, hp, rfl⟩ := Option.map_eq_some_iff.1 hq
  refine hinv.active_of_open i p hp ?_
  split at hopen
  · rwa [hc p (List.mem_of_getElem? hp)] at hopen
  · exact hopen

/-- If all are closed when a URL is offered, then only the opener is open. -/
theorem opener?_of_isOpen {ps : List σ} (hps : ∀ p ∈ ps, KeepsFlag isOpen unopened p)
    (hclosed : ∀ (i : Nat) p, ps[i]? = some p → isOpen p = false) {url : String} {i : Nat} {q : σ}
    (hq : (perform ps (openings url ps))[i]? = some q) (hopen : isOpen q = true) :
    opener? url ps = some i := by
  rw [getElem?_perform_openings] at hq
  obtain ⟨p, hp, rfl⟩ := Option.map_eq_some_iff.1 hq
  split at hopen
  · rename_i htried
    rw [(hps p (List.mem_of_getElem? hp)).flagged.openUrl, hclosed i p hp, Bool.or_false] at hopen
    exact opener?_eq_some_iff.2 ⟨htried, opensAt_iff.2 ⟨p, hp, hopen⟩⟩
  · rw [hclosed i p hp] at hopen
    cases hopen

theorem OnlyActiveOpen.step {h : Hoster σ} (hinv : OnlyActiveOpen isOpen unopened h) (s : Step) :
    OnlyActiveOpen isOpen unopened (h.step s).2 := by
  refine ⟨forall_step (fun _ made hp => hp.after made) hinv.keeps s,
    forall_step (fun _ made hp => hp.after made) hinv.closes s, fun i p hp hopen => ?_⟩
  rw [step_snd] at hp ⊢
  cases s with
  | active => exact hinv.active_of_open i p hp hopen
  | stream c =>
    cases c with
    | openUrl url =>
      rw [calls, perform_append] at hp
      exact opener?_of_isOpen (forall_perform (fun _ made hp => hp.after made) hinv.keeps _)
        (fun _ _ => hinv.isOpen_closed) hp hopen
    | read position length =>
      exact hinv.pass (c := .read position length)
        (fun p hp => (hinv.keeps p hp).flagged.read position length) hp hopen
    | seek position =>
      exact hinv.pass (c := .seek position)
        (fun p hp => (hinv.keeps p hp).flagged.seek position) hp hopen
    | close =>
      have hclosed : isOpen p = false := hinv.isOpen_closed hp
      rw [hclosed] at hopen
      cases hopen

theorem OnlyActiveOpen.after {h : Hoster σ} (hinv : OnlyActiveOpen isOpen unopened h)
    (steps : List Step) : OnlyActiveOpen isOpen unopened (h.after steps) := by
  induction steps generalizing h with
  | nil => exact hinv
  | cons s steps ih => exact ih (hinv.step s)

/-! ### Runs from closed protocols -/

/-- On protocols that keep a flag and start closed, after any run: the active protocol is one
of them and is open, no read finds it closed, and if closing never fails no other is open. The
protocols from memory and those that follow a script keep such a flag. -/
theorem active_open_after :
    (∀ p : HostedProtocol, KeepsFlag HostedProtocol.isOpen StreamFault.IsUnopened p) ∧
    ∀ {σ : Type} [Protocol σ] {isOpen : σ → Bool} {unopened : StreamFault → Prop} {ps : List σ},
      (∀ p ∈ ps, KeepsFlag isOpen unopened p) → (∀ p ∈ ps, isOpen p = false) →
      ∀ steps : List Step,
        let h := Hoster.after ⟨ps, none⟩ steps
        (∀ i, h.active = some i → ∃ p, h.protocols[i]? = some p ∧ isOpen p = true) ∧
        (∀ position length f, unopened f →
          (ByteStream.read position length h).1 ≠ .error (.protocol f)) ∧
        ((∀ p ∈ ps, AlwaysCloses p) →
          ∀ (i : Nat) p, h.protocols[i]? = some p → isOpen p = true → h.active = some i) := by
  refine ⟨fun p made => HostedProtocol.flagged _, ?_⟩
  intro σ _ isOpen unopened ps hkeeps hclosed steps
  have hactive : ActiveOpen isOpen unopened (Hoster.after ⟨ps, none⟩ steps) :=
    ActiveOpen.after ⟨hkeeps, fun i hi => by cases hi⟩ steps
  refine ⟨hactive.active_open, fun position length f => hactive.read_ne position length,
    fun hcloses => ?_⟩
  have honly : OnlyActiveOpen isOpen unopened (Hoster.after ⟨ps, none⟩ steps) := by
    refine OnlyActiveOpen.after ⟨hkeeps, hcloses, fun i p hp hopen => ?_⟩ steps
    rw [hclosed p (List.mem_of_getElem? hp)] at hopen
    cases hopen
  exact honly.active_of_open

/-- A tape that cannot be closed is still open when the disk is active. Without the tape only
the disk is open. -/
theorem active_open_after_disk :
    let tape : HostedProtocol := .scripted { name := "tape", urlStart := "t", failing := [.close] }
    let disk : HostedProtocol := .memory { name := "disk", schemes := ["d"], body := [1, 2] }
    let spare : HostedProtocol := .memory { name := "spare", schemes := ["d"], body := [] }
    let steps : List Step := [.stream (.openUrl "t://a"), .stream (.openUrl "d://b")]
    let h := Hoster.after ⟨[tape, disk], none⟩ steps
    let h' := Hoster.after ⟨[spare, disk], none⟩ steps
    (∀ p ∈ [tape, disk], HostedProtocol.isOpen p = false) ∧
      (∀ p ∈ [spare, disk], HostedProtocol.isOpen p = false) ∧
      (∀ p ∈ [spare, disk], AlwaysCloses p) ∧
      h.protocols.map HostedProtocol.isOpen = [true, true] ∧ h.active = some 1 ∧
      (∀ position length,
        (ByteStream.read position length h).1 ≠ .error (.protocol .streamNotOpen)) ∧
      ∀ (i : Nat) p, h'.protocols[i]? = some p → HostedProtocol.isOpen p = true →
        h'.active = some i := by
  intro tape disk spare steps h h'
  have hclosed : ∀ p ∈ [tape, disk], HostedProtocol.isOpen p = false := by
    simp [tape, disk, HostedProtocol.isOpen]
  have hclosed' : ∀ p ∈ [spare, disk], HostedProtocol.isOpen p = false := by
    simp [spare, disk, HostedProtocol.isOpen]
  have hcloses : ∀ p ∈ [spare, disk], AlwaysCloses p := by
    simp [spare, disk, alwaysCloses_memory]
  have hread := (active_open_after.2 (fun p _ => active_open_after.1 p) hclosed steps).2.1
  have honly := (active_open_after.2 (fun p _ => active_open_after.1 p) hclosed' steps).2.2
  exact ⟨hclosed, hclosed', hcloses, rfl, rfl,
    fun position length => hread position length .streamNotOpen (.inl rfl), honly hcloses⟩

end StreamSource.Hoster
