import Mathlib.Tactic.SplitIfs
import StreamSource.Proofs.Protocol.Calls
import StreamSource.Protocol.Hosted

/-! The protocols served from memory and those that follow a script are forgetful and keep
a flag of whether they are open, whatever calls fail. Apart from the URLs that were opened and
from the flag, no call changes them. -/

namespace StreamSource

open ByteStream Protocol

/-- The faults of a read that finds its protocol closed. -/
def StreamFault.IsUnopened (f : StreamFault) : Prop := f = .streamNotOpen ∨ f = .notOpen

/-! ### Memory -/

namespace MemoryProtocol

/-- The protocol as it was built. -/
def reset (p : MemoryProtocol) : MemoryProtocol := { p with opened := [], isOpen := false }

theorem openUrl_eq (p : MemoryProtocol) (url : String) :
    ByteStream.openUrl url p =
      if p.refusesToOpen then (.error (.protocol (.refused p.name url)), p)
      else (.ok (), { p with opened := p.opened ++ [url], isOpen := true }) := rfl

theorem read_eq (p : MemoryProtocol) (position : UInt64) (length : Nat) :
    ByteStream.read position length p =
      if p.isOpen then (.ok (p.body.slice position length), p)
      else (.error (.protocol .streamNotOpen), p) := rfl

theorem reset_step (p : MemoryProtocol) (c : StreamStep) : (step p c).2.reset = p.reset := by
  cases c with
  | openUrl url => rw [step_openUrl, openUrl_eq]; split <;> rfl
  | read position length => rw [step_read, read_eq]; split <;> rfl
  | seek position => rfl
  | close => rfl

theorem reset_after (p : MemoryProtocol) (calls : List StreamStep) :
    (after p calls).reset = p.reset := by
  induction calls generalizing p with
  | nil => rfl
  | cons c calls ih => rw [after_cons, ih, reset_step]

theorem openUrl_fst_of_reset_eq {p q : MemoryProtocol} (h : p.reset = q.reset) (url : String) :
    (ByteStream.openUrl url p).1 = (ByteStream.openUrl url q).1 := by
  have hname : p.name = q.name := (congrArg MemoryProtocol.name h :)
  have hrefuses : p.refusesToOpen = q.refusesToOpen := (congrArg refusesToOpen h :)
  rw [openUrl_eq, openUrl_eq, hname, hrefuses]
  split <;> rfl

/-- Apart from the flag nothing that calls change is answered. -/
theorem alike_of_reset_eq {p q : MemoryProtocol} (h : p.reset = q.reset)
    (hopen : p.isOpen = q.isOpen) : Alike p q := by
  refine Alike.of_simulation (R := fun p q => p.reset = q.reset ∧ p.isOpen = q.isOpen)
    (fun p q h => congrArg MemoryProtocol.name h.1) ?_ ⟨h, hopen⟩
  rintro p q c ⟨h, hopen⟩
  have hbody : p.body = q.body := (congrArg MemoryProtocol.body h :)
  have hrefuses : p.refusesToOpen = q.refusesToOpen := (congrArg refusesToOpen h :)
  refine ⟨?_, by rw [reset_step, reset_step, h], ?_⟩
  · cases c with
    | openUrl url => rw [step_openUrl, step_openUrl, openUrl_fst_of_reset_eq h]
    | read position length =>
      rw [step_read, step_read, read_eq, read_eq, hopen, hbody]
      split <;> rfl
    | seek position =>
      show StreamAnswer.position (p.body.clamp position) = .position (q.body.clamp position)
      rw [hbody]
    | close => rfl
  · cases c with
    | openUrl url =>
      rw [step_openUrl, step_openUrl, openUrl_eq, openUrl_eq, hrefuses]
      split <;> simp [hopen]
    | read position length =>
      rw [step_read, step_read, read_eq, read_eq, hopen]
      split <;> exact hopen
    | seek position => exact hopen
    | close => rfl

theorem forgetful (p : MemoryProtocol) : Forgetful p where
  supports calls url := by
    have hschemes : (after p calls).schemes = p.schemes :=
      (congrArg MemoryProtocol.schemes (reset_after p calls) :)
    show Url.hasScheme _ url = Url.hasScheme _ url
    rw [hschemes]
  openUrl calls url := openUrl_fst_of_reset_eq (reset_after p calls) url
  later calls url hok := by
    have hreset := reset_after p calls
    have hrefuses : p.refusesToOpen = false := by
      refine Bool.eq_false_iff.2 fun h => ?_
      simp [openUrl_eq, h] at hok
    have hafter : (after p calls).refusesToOpen = false :=
      (congrArg refusesToOpen hreset :).trans hrefuses
    rw [openUrl_eq, openUrl_eq, if_neg (by simp [hafter]), if_neg (by simp [hrefuses])]
    exact alike_of_reset_eq hreset rfl

theorem flagged (p : MemoryProtocol) : Flagged isOpen StreamFault.IsUnopened p where
  openUrl url := by rw [openUrl_eq]; split <;> rfl
  read position length := by rw [read_eq]; split <;> rfl
  seek _ := rfl
  close := by
    show false = (p.isOpen && !true)
    simp
  read_open hopen position length f _ := by simp [read_eq, hopen]

end MemoryProtocol

/-! ### Scripts -/

namespace ScriptedProtocol

def reset (p : ScriptedProtocol) : ScriptedProtocol := { p with isOpen := false }

theorem openUrl_eq (p : ScriptedProtocol) (url : String) :
    ByteStream.openUrl url p =
      if .openUrl ∈ p.failing then (.error (.protocol (.failed p.name .openUrl)), p)
      else (.ok (), { p with isOpen := true }) := rfl

theorem read_eq (p : ScriptedProtocol) (position : UInt64) (length : Nat) :
    ByteStream.read position length p =
      if .read ∈ p.failing then (.error (.protocol (.failed p.name .read)), p)
      else if p.isOpen then (.ok (p.bytes position length), p)
      else (.error (.protocol .notOpen), p) := rfl

theorem seek_eq (p : ScriptedProtocol) (position : UInt64) :
    ByteStream.seek position p =
      if .seek ∈ p.failing then (.error (.protocol (.failed p.name .seek)), p)
      else (.ok position, p) := rfl

theorem close_eq (p : ScriptedProtocol) :
    ByteStream.close p =
      if .close ∈ p.failing then (.error (.protocol (.failed p.name .close)), p)
      else (.ok (), { p with isOpen := false }) := rfl

theorem reset_step (p : ScriptedProtocol) (c : StreamStep) : (step p c).2.reset = p.reset := by
  cases c with
  | openUrl url => rw [step_openUrl, openUrl_eq]; split <;> rfl
  | read position length => rw [step_read, read_eq]; split_ifs <;> rfl
  | seek position => rw [step_seek, seek_eq]; split <;> rfl
  | close => rw [step_close, close_eq]; split <;> rfl

theorem reset_after (p : ScriptedProtocol) (calls : List StreamStep) :
    (after p calls).reset = p.reset := by
  induction calls generalizing p with
  | nil => rfl
  | cons c calls ih => rw [after_cons, ih, reset_step]

/-- Once one of two protocols with one script opens a URL, the flag they had before is gone. -/
theorem openUrl_of_reset_eq {p q : ScriptedProtocol} (h : p.reset = q.reset) {url : String}
    (hok : (ByteStream.openUrl url q).1 = .ok ()) :
    ByteStream.openUrl url p = ByteStream.openUrl url q := by
  obtain ⟨name, urlStart, failing, isOpen⟩ := p
  obtain ⟨name', urlStart', failing', isOpen'⟩ := q
  simp only [reset, ScriptedProtocol.mk.injEq, and_true] at h
  obtain ⟨rfl, rfl, rfl⟩ := h
  have hopens : .openUrl ∉ failing := by
    intro hfails
    simp [openUrl_eq, hfails] at hok
  rw [openUrl_eq, openUrl_eq, if_neg hopens, if_neg hopens]

theorem forgetful (p : ScriptedProtocol) : Forgetful p where
  supports calls url := by
    have hstart : (after p calls).urlStart = p.urlStart :=
      (congrArg ScriptedProtocol.urlStart (reset_after p calls) :)
    show List.isPrefixOf _ url.toList = List.isPrefixOf _ url.toList
    rw [hstart]
  openUrl calls url := by
    have hname : (after p calls).name = p.name :=
      (congrArg ScriptedProtocol.name (reset_after p calls) :)
    have hfailing : (after p calls).failing = p.failing :=
      (congrArg ScriptedProtocol.failing (reset_after p calls) :)
    rw [openUrl_eq, openUrl_eq, hname, hfailing]
    split <;> rfl
  later calls url hok := by
    rw [openUrl_of_reset_eq (reset_after p calls) hok]
    exact Alike.refl _

theorem flagged (p : ScriptedProtocol) : Flagged isOpen StreamFault.IsUnopened p where
  openUrl url := by rw [openUrl_eq]; split <;> rfl
  read position length := by rw [read_eq]; split_ifs <;> rfl
  seek position := by rw [seek_eq]; split <;> rfl
  close := by
    rw [close_eq]
    split
    · exact (Bool.and_true _).symm
    · exact (Bool.and_false _).symm
  read_open hopen position length f hf := by
    rw [read_eq]
    split_ifs
    · rintro h
      rcases hf with rfl | rfl <;> simp at h
    · simp

end ScriptedProtocol

/-! ### Either kind -/

namespace HostedProtocol

def isOpen : HostedProtocol → Bool
  | .memory p => p.isOpen
  | .scripted p => p.isOpen

theorem wraps_memory : Wraps memory where
  name _ := rfl
  supports _ _ := rfl
  openUrl _ _ := rfl
  read _ _ _ := rfl
  seek _ _ := rfl
  close _ := rfl

theorem wraps_scripted : Wraps scripted where
  name _ := rfl
  supports _ _ := rfl
  openUrl _ _ := rfl
  read _ _ _ := rfl
  seek _ _ := rfl
  close _ := rfl

theorem forgetful (p : HostedProtocol) : Forgetful p := by
  cases p with
  | memory p => exact wraps_memory.forgetful p.forgetful
  | scripted p => exact wraps_scripted.forgetful p.forgetful

theorem flagged (p : HostedProtocol) : Flagged isOpen StreamFault.IsUnopened p := by
  cases p with
  | memory p => exact wraps_memory.flagged (fun _ => rfl) p.flagged
  | scripted p => exact wraps_scripted.flagged (fun _ => rfl) p.flagged

end HostedProtocol

end StreamSource
