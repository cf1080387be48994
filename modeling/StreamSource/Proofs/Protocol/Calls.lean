import StreamSource.ByteStream.Step
import StreamSource.Protocol.Basic

/-! Runs of calls on one protocol. Two states are alike when no run of calls tells
them apart. A protocol is forgetful when earlier calls show neither in the URLs that it
supports and opens nor, once it has opened one, in anything that it answers. Some protocols
keep a flag of whether they are open. -/

namespace StreamSource

@[simp] theorem isOk_ok {ε α : Type} (a : α) : (Except.ok a : Except ε α).isOk = true := rfl

@[simp] theorem isOk_error {ε α : Type} (e : ε) : (Except.error e : Except ε α).isOk = false := rfl

/-- An answer tells what the call came to. -/
theorem StreamAnswer.ofExcept_inj {α : Type} {f : α → StreamAnswer} {r r' : Except Error α}
    (hf : ∀ {a a'}, f a = f a' → a = a') (hfailed : ∀ a e, f a ≠ .failed e)
    (h : ofExcept f r = ofExcept f r') : r = r' := by
  cases r with
  | ok a =>
    cases r' with
    | ok a' => exact congrArg _ (hf h)
    | error e' => exact absurd h (hfailed a e')
  | error e =>
    cases r' with
    | ok a' => exact absurd h.symm (hfailed a' e)
    | error e' => exact congrArg _ (StreamAnswer.failed.inj h)

namespace ByteStream

variable {σ : Type} [ByteStream σ]

/-- The state after calls made one after the other. -/
def after (s : σ) (calls : List StreamStep) : σ := calls.foldl (fun s c => (step s c).2) s

def answers (s : σ) : List StreamStep → List StreamAnswer
  | [] => []
  | c :: calls => (step s c).1 :: answers (step s c).2 calls

@[simp] theorem after_nil (s : σ) : after s [] = s := rfl

@[simp] theorem after_cons (s : σ) (c : StreamStep) (calls : List StreamStep) :
    after s (c :: calls) = after (step s c).2 calls := rfl

theorem after_append (s : σ) (calls more : List StreamStep) :
    after s (calls ++ more) = after (after s calls) more :=
  List.foldl_append

@[simp] theorem step_openUrl (s : σ) (url : String) :
    step s (.openUrl url) = (.ofExcept (fun _ => .done) (openUrl url s).1, (openUrl url s).2) := rfl

@[simp] theorem step_read (s : σ) (position : UInt64) (length : Nat) :
    step s (.read position length)
      = (.ofExcept .bytes (read position length s).1, (read position length s).2) := rfl

@[simp] theorem step_seek (s : σ) (position : UInt64) :
    step s (.seek position) = (.ofExcept .position (seek position s).1, (seek position s).2) := rfl

@[simp] theorem step_close (s : σ) :
    step s .close = (.ofExcept (fun _ => .done) (close s).1, (close s).2) := rfl

end ByteStream

namespace Protocol

open ByteStream

variable {σ : Type} [Protocol σ]

/-- Every later run of calls is answered alike, and leaves a protocol of one name. -/
def Alike (p q : σ) : Prop :=
  ∀ calls, answers p calls = answers q calls ∧ name (after p calls) = name (after q calls)

namespace Alike

theorem refl (p : σ) : Alike p p := fun _ => ⟨rfl, rfl⟩

theorem symm {p q : σ} (h : Alike p q) : Alike q p := fun calls =>
  ⟨(h calls).1.symm, (h calls).2.symm⟩

theorem trans {p q r : σ} (hpq : Alike p q) (hqr : Alike q r) : Alike p r := fun calls =>
  ⟨(hpq calls).1.trans (hqr calls).1, (hpq calls).2.trans (hqr calls).2⟩

theorem name_eq {p q : σ} (h : Alike p q) : name p = name q := (h []).2

theorem answer_eq {p q : σ} (h : Alike p q) (c : StreamStep) : (step p c).1 = (step q c).1 :=
  (List.cons.inj (h [c]).1).1

theorem step {p q : σ} (h : Alike p q) (c : StreamStep) :
    Alike (ByteStream.step p c).2 (ByteStream.step q c).2 := fun calls =>
  ⟨(List.cons.inj (h (c :: calls)).1).2, (h (c :: calls)).2⟩

theorem read_eq {p q : σ} (h : Alike p q) (position : UInt64) (length : Nat) :
    (ByteStream.read position length p).1 = (ByteStream.read position length q).1 :=
  StreamAnswer.ofExcept_inj StreamAnswer.bytes.inj (fun _ _ h => by cases h)
    (h.answer_eq (.read position length))

theorem seek_eq {p q : σ} (h : Alike p q) (position : UInt64) :
    (ByteStream.seek position p).1 = (ByteStream.seek position q).1 :=
  StreamAnswer.ofExcept_inj StreamAnswer.position.inj (fun _ _ h => by cases h)
    (h.answer_eq (.seek position))

theorem close_eq {p q : σ} (h : Alike p q) : (ByteStream.close p).1 = (ByteStream.close q).1 :=
  StreamAnswer.ofExcept_inj (fun _ => rfl) (fun _ _ h => by cases h) (h.answer_eq .close)

/-- A relation that every call keeps, and in which it is answered alike, makes states alike. -/
theorem of_simulation {R : σ → σ → Prop} (hname : ∀ p q, R p q → name p = name q)
    (hstep : ∀ p q c, R p q →
      (ByteStream.step p c).1 = (ByteStream.step q c).1 ∧
        R (ByteStream.step p c).2 (ByteStream.step q c).2)
    {p q : σ} (h : R p q) : Alike p q := by
  intro calls
  induction calls generalizing p q with
  | nil => exact ⟨rfl, hname p q h⟩
  | cons c calls ih =>
    obtain ⟨hanswer, hnext⟩ := hstep p q c h
    obtain ⟨hanswers, hend⟩ := ih hnext
    exact ⟨by rw [answers, answers, hanswer, hanswers], hend⟩

end Alike

structure Forgetful (p : σ) : Prop where
  supports : ∀ calls url, Protocol.supports (after p calls) url = Protocol.supports p url
  openUrl : ∀ calls url, (ByteStream.openUrl url (after p calls)).1 = (ByteStream.openUrl url p).1
  later : ∀ calls url, (ByteStream.openUrl url p).1 = .ok () →
    Alike (ByteStream.openUrl url (after p calls)).2 (ByteStream.openUrl url p).2

/-- The flag `isOpen` is set by an opening and cleared by a closing that succeeds, and kept by
every other call; while it is set, no read fails with an `unopened` fault. -/
structure Flagged (isOpen : σ → Bool) (unopened : StreamFault → Prop) (p : σ) : Prop where
  openUrl : ∀ url,
    isOpen (ByteStream.openUrl url p).2 = ((ByteStream.openUrl url p).1.isOk || isOpen p)
  read : ∀ position length, isOpen (ByteStream.read position length p).2 = isOpen p
  seek : ∀ position, isOpen (ByteStream.seek position p).2 = isOpen p
  close : isOpen (ByteStream.close p).2 = (isOpen p && !(ByteStream.close p).1.isOk)
  read_open : isOpen p = true → ∀ position length f, unopened f →
    (ByteStream.read position length p).1 ≠ .error (.protocol f)

/-- A protocol kept inside another, which passes every call on to it. -/
structure Wraps {τ : Type} [Protocol τ] (w : σ → τ) : Prop where
  name : ∀ p, Protocol.name (w p) = Protocol.name p
  supports : ∀ p url, Protocol.supports (w p) url = Protocol.supports p url
  openUrl : ∀ p url, ByteStream.openUrl url (w p)
    = ((ByteStream.openUrl url p).1, w (ByteStream.openUrl url p).2)
  read : ∀ p position length, ByteStream.read position length (w p)
    = ((ByteStream.read position length p).1, w (ByteStream.read position length p).2)
  seek : ∀ p position, ByteStream.seek position (w p)
    = ((ByteStream.seek position p).1, w (ByteStream.seek position p).2)
  close : ∀ p, ByteStream.close (w p) = ((ByteStream.close p).1, w (ByteStream.close p).2)

namespace Wraps

variable {τ : Type} [Protocol τ] {w : σ → τ}

theorem step (hw : Wraps w) (p : σ) (c : StreamStep) :
    ByteStream.step (w p) c = ((ByteStream.step p c).1, w (ByteStream.step p c).2) := by
  cases c with
  | openUrl url => rw [step_openUrl, step_openUrl, hw.openUrl]
  | read position length => rw [step_read, step_read, hw.read]
  | seek position => rw [step_seek, step_seek, hw.seek]
  | close => rw [step_close, step_close, hw.close]

theorem after (hw : Wraps w) (p : σ) (calls : List StreamStep) :
    ByteStream.after (w p) calls = w (ByteStream.after p calls) := by
  induction calls generalizing p with
  | nil => rfl
  | cons c calls ih => rw [after_cons, after_cons, hw.step, ih]

theorem alike (hw : Wraps w) {p q : σ} (h : Alike p q) : Alike (w p) (w q) := by
  refine Alike.of_simulation (R := fun x y => ∃ p q, x = w p ∧ y = w q ∧ Alike p q)
    ?_ ?_ ⟨p, q, rfl, rfl, h⟩
  · rintro _ _ ⟨p, q, rfl, rfl, h⟩
    rw [hw.name, hw.name, h.name_eq]
  · rintro _ _ c ⟨p, q, rfl, rfl, h⟩
    rw [hw.step, hw.step]
    exact ⟨h.answer_eq c, _, _, rfl, rfl, h.step c⟩

theorem forgetful (hw : Wraps w) {p : σ} (h : Forgetful p) : Forgetful (w p) where
  supports calls url := by rw [hw.after, hw.supports, hw.supports, h.supports]
  openUrl calls url := by rw [hw.after, hw.openUrl, hw.openUrl, h.openUrl]
  later calls url hok := by
    rw [hw.openUrl] at hok
    rw [hw.after, hw.openUrl, hw.openUrl]
    exact hw.alike (h.later calls url hok)

theorem flagged (hw : Wraps w) {isOpen : σ → Bool} {isOpen' : τ → Bool}
    (hflag : ∀ p, isOpen' (w p) = isOpen p) {unopened : StreamFault → Prop} {p : σ}
    (h : Flagged isOpen unopened p) : Flagged isOpen' unopened (w p) where
  openUrl url := by rw [hw.openUrl, hflag, hflag, h.openUrl]
  read position length := by rw [hw.read, hflag, hflag, h.read]
  seek position := by rw [hw.seek, hflag, hflag, h.seek]
  close := by rw [hw.close, hflag, hflag, h.close]
  read_open hopen position length f hf := by
    rw [hw.read]
    exact h.read_open (hflag p ▸ hopen) position length f hf

end Wraps

end Protocol

end StreamSource
