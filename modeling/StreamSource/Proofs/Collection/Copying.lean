import Mathlib.Order.Bounds.Basic
import StreamSource.Proofs.Collection.Runs

/-! Copies of collections, whole or not at all. The copying goes from item to item and may fail at
any of them, and then names the first one that refuses. What is appended is copied before, so an
append that fails has changed nothing, and in general no step that is refused has. -/

namespace StreamSource.Collection

variable {α : Type} [Copyable α]

/-- The indexes of the items that refuse to be copied. -/
def refusing (c : Collection α) : Set Nat := {i | ∃ x ∈ c.items[i]?, Copyable.refuses x = true}

/-- The items are copied up to the first one that refuses. -/
theorem copies_eq (i : Nat) (xs : List α) :
    copies i xs = match xs.findIdx? Copyable.refuses with
      | some k => .error (.cloneUnsupported (i + k) (Copyable.typeName α))
      | none => .ok xs := by
  induction xs generalizing i with
  | nil => rfl
  | cons x xs ih =>
    rw [copies, ih, List.findIdx?_cons]
    cases Copyable.refuses x with
    | true => rfl
    | false =>
      cases xs.findIdx? Copyable.refuses with
      | none => rfl
      | some k => simp [Except.map, Nat.add_assoc, Nat.add_comm 1 k]

theorem copy_eq (c : Collection α) :
    c.copy = match c.items.findIdx? Copyable.refuses with
      | some k => .error (.cloneUnsupported k (Copyable.typeName α))
      | none => .ok c := by
  rw [copy, copies_eq]
  cases c.items.findIdx? Copyable.refuses with
  | none => rfl
  | some k => simp [Except.map]

theorem mem_refusing_iff {c : Collection α} {k : Nat} :
    k ∈ c.refusing ↔ ∃ h : k < c.items.length, Copyable.refuses c.items[k] = true := by
  constructor
  · rintro ⟨x, hx, hrefuses⟩
    obtain ⟨hk, rfl⟩ := List.getElem?_eq_some_iff.1 hx
    exact ⟨hk, hrefuses⟩
  · rintro ⟨hk, hrefuses⟩
    exact ⟨c.items[k], List.getElem?_eq_getElem hk, hrefuses⟩

theorem isLeast_refusing_iff {c : Collection α} {k : Nat} :
    IsLeast c.refusing k ↔ c.items.findIdx? Copyable.refuses = some k := by
  rw [List.findIdx?_eq_some_iff_getElem]
  constructor
  · rintro ⟨hmem, hleast⟩
    obtain ⟨hk, hrefuses⟩ := mem_refusing_iff.1 hmem
    refine ⟨hk, hrefuses, fun j hj hrefuses' => ?_⟩
    have hle : k ≤ j := hleast (mem_refusing_iff.2 ⟨_, hrefuses'⟩)
    omega
  · rintro ⟨hk, hrefuses, hbefore⟩
    refine ⟨mem_refusing_iff.2 ⟨hk, hrefuses⟩, fun j hmem => ?_⟩
    obtain ⟨_, hrefuses'⟩ := mem_refusing_iff.1 hmem
    by_contra hj
    exact hbefore j (by omega) hrefuses'

theorem copy_eq_ok_iff {c d : Collection α} :
    c.copy = .ok d ↔ (∀ x ∈ c.items, Copyable.refuses x = false) ∧ d = c := by
  rw [copy_eq, ← List.findIdx?_eq_none_iff]
  cases c.items.findIdx? Copyable.refuses <;> simp [eq_comm]

theorem copy_eq_error_iff {c : Collection α} {e : Error} :
    c.copy = .error e ↔
      ∃ k, IsLeast c.refusing k ∧ e = .cloneUnsupported k (Copyable.typeName α) := by
  simp only [isLeast_refusing_iff]
  rw [copy_eq]
  cases c.items.findIdx? Copyable.refuses <;> simp [eq_comm]

theorem append_of_copy_ok (c : Collection α) {other d : Collection α} (h : other.copy = .ok d) :
    c.append other = .ok ⟨c.items ++ other.items⟩ := by
  rw [append, h, (copy_eq_ok_iff.1 h).2]
  rfl

theorem append_of_copy_error (c : Collection α) {other : Collection α} {e : Error}
    (h : other.copy = .error e) : c.append other = .error e := by
  rw [append, h]
  rfl

theorem items_of_append_ok {c other d : Collection α} (h : c.append other = .ok d) :
    d.items = c.items ++ other.items := by
  cases hcopy : other.copy with
  | ok o =>
    cases (append_of_copy_ok c hcopy).symm.trans h
    rfl
  | error e => cases (append_of_copy_error c hcopy).symm.trans h

/-! ### Refused steps -/

/-- The answers that say that something was not done or not found. -/
def Answer.refused : Answer α → Bool
  | .accepted b => !b
  | .index? i => i.isNone
  | .item? x => x.isNone
  | .found? x => x.isNone
  | .failed _ => true
  | .done | .succeeded | .index _ | .size _ _ | .items _ => false

theorem Step.eq_of_refused {c d : Collection α} {s : Step α} {a : Answer α}
    (h : s.local? c = some (a, d)) (ha : a.refused = true) : d = c := by
  have hkept {o : Option (Collection α)} (ho : o.isSome = false) : o.getD c = c := by
    rw [Option.isSome_eq_false_iff, Option.isNone_iff_eq_none] at ho
    rw [ho, Option.getD_none]
  cases s with
  | insert i x => cases h; exact hkept (by simpa [Answer.refused] using ha)
  | remove i => cases h; exact hkept (by simpa [Answer.refused] using ha)
  | take i => cases h; exact hkept (by simpa [Answer.refused] using ha)
  | set i x => cases h; exact hkept (by simpa [Answer.refused] using ha)
  | get _ | find _ | position _ => cases h; rfl
  | copy _ | append _ | equals _ => cases h
  | _ => cases h; cases ha

variable [DecidableEq α]

/-- A step that is refused leaves the contents of all registers as they were. -/
theorem Step.held_run_of_refused {r : Registers (Collection α)} {on : String} {s : Step α}
    (h : (s.run on r).1.refused = true) (name : String) :
    held (s.run on r).2 name = held r name := by
  obtain ⟨a, place, d, houtcome, ha, hheld⟩ := s.exists_outcome r on
  rw [ha] at h
  have hsame : d = held r place := by
    cases houtcome with
    | alone hlocal => exact eq_of_refused hlocal h
    | copied _ => cases h
    | appended _ => cases h
    | notCopied _ | notAppended _ | compared => rfl
  rw [hheld, hsame]
  exact ite_held r place name

theorem held_after_of_refused {steps : List (String × Step α)} {i : Nat} {a : Answer α}
    {c : Collection α} (hrun : (run .empty steps)[i]? = some (a, c)) (ha : a.refused = true)
    (name : String) :
    held (after .empty (steps.take (i + 1))) name = held (after .empty (steps.take i)) name := by
  rw [getElem?_run] at hrun
  obtain ⟨⟨on, s⟩, hstep, heq⟩ := Option.map_eq_some_iff.1 hrun
  cases heq
  rw [List.take_add_one, hstep, Option.toList_some, after_append]
  exact Step.held_run_of_refused ha name

/-! ### Appending -/

/-- What appending the collection of one register to that of another one comes to. -/
structure AppendsWhole (r : Registers (Collection α)) (on source : String) : Prop where
  succeeded : ∀ d, (held r source).copy = .ok d →
    ((Step.append source).run on r).1 = .succeeded ∧
      (held ((Step.append source).run on r).2 on).items = (held r on).items ++ (held r source).items
  failed : ∀ e, (held r source).copy = .error e →
    ((Step.append source).run on r).1 = .failed e ∧
      held ((Step.append source).run on r).2 on = held r on
  others : ∀ name, name ≠ on → held ((Step.append source).run on r).2 name = held r name

theorem appendsWhole (r : Registers (Collection α)) (on source : String) :
    AppendsWhole r on source := by
  obtain ⟨a, place, d, houtcome, ha, hheld⟩ := (Step.append source).exists_outcome r on
  refine ⟨fun o hcopy => ?_, fun e hcopy => ?_, fun name hname => ?_⟩
  · have happend := append_of_copy_ok (held r on) hcopy
    cases houtcome with
    | alone h => cases h
    | appended h =>
      cases happend.symm.trans h
      exact ⟨ha, by rw [hheld, if_pos rfl]⟩
    | notAppended h => cases happend.symm.trans h
  · have happend := append_of_copy_error (held r on) hcopy
    cases houtcome with
    | alone h => cases h
    | appended h => cases happend.symm.trans h
    | notAppended h =>
      cases happend.symm.trans h
      exact ⟨ha, by rw [hheld, if_pos rfl]⟩
  · cases houtcome with
    | alone h => cases h
    | appended _ | notAppended _ => rw [hheld, if_neg hname]

/-- A collection is copied if none of its items refuses, and then the copy has the same items in
the same order; otherwise the copying fails and names the least index at which an item refuses. To
append a collection is to copy it and to put the copies at the end, and if the copying fails, so
does this, and nothing is put there. The other registers stay as they are. Whatever steps a run
has, one that is refused leaves the contents of all registers as they were. -/
theorem copied_whole_and_kept_if_refused :
    (∀ c : Collection α,
      (∀ d, c.copy = .ok d ↔ (∀ x ∈ c.items, Copyable.refuses x = false) ∧ d = c) ∧
      ∀ e, c.copy = .error e ↔
        ∃ k, IsLeast c.refusing k ∧ e = .cloneUnsupported k (Copyable.typeName α)) ∧
    (∀ (r : Registers (Collection α)) (on source : String), AppendsWhole r on source) ∧
    ∀ (steps : List (String × Step α)) (i : Nat) (a : Answer α) (c : Collection α),
      (run .empty steps)[i]? = some (a, c) → a.refused = true →
        ∀ name, held (after .empty (steps.take (i + 1))) name =
          held (after .empty (steps.take i)) name :=
  ⟨fun _ => ⟨fun _ => copy_eq_ok_iff, fun _ => copy_eq_error_iff⟩, appendsWhole,
    fun _ _ _ _ hrun ha => held_after_of_refused hrun ha⟩

/-! ### Items that refuse -/

/-- Plain items are copied, live ones are not. -/
inductive Resource
  | plain (n : Nat)
  | live
  deriving DecidableEq

instance : Copyable Resource where
  typeName := "Resource"
  refuses x := x = .live

/-- Behind a plain item a live one refuses, and the append of both leaves its target as it was. -/
theorem append_of_live_refused :
    let steps : List (String × Step Resource) :=
      [("a", .replace [.plain 1, .live, .plain 3, .live]), ("b", .add (.plain 0)), ("b", .append "a")]
    (run .empty steps)[2]? = some (.failed (.cloneUnsupported 1 "Resource"), ⟨[.plain 0]⟩) ∧
      ∀ name, held (after .empty steps) name = held (after .empty (steps.take 2)) name := by
  intro steps
  have hrun : (run .empty steps)[2]? =
      some (.failed (.cloneUnsupported 1 "Resource"), ⟨[.plain 0]⟩) := rfl
  exact ⟨hrun, copied_whole_and_kept_if_refused.2.2 steps 2 _ _ hrun rfl⟩

end StreamSource.Collection
