import StreamSource.Proofs.Hoster.Calls
import StreamSource.Proofs.Text.FirstCut
import StreamSource.Protocol.Scripted

/-! The dispatch of a hoster, as the calls that it makes on protocols which may answer and
fail in any way: opening a URL closes the active protocol and then goes through the protocols
that support the URL up to the first that opens it; everything else is passed on to the active
protocol alone. -/

namespace StreamSource.Hoster

open ByteStream Protocol

variable {σ α : Type} [Protocol σ]

/-- The outcome of opening a URL. The active protocol is closed first, whatever comes of it;
the URL is then offered in turn, and the first protocol to open it is active. If none does,
none is active and the last refusal is the error. The protocols may be of any type, also one
that logs its calls, so the states that the calls lead to say which calls are made. -/
structure Dispatched (url : String) (h : Hoster σ) (r : Outcome (Hoster σ) Unit) : Prop where
  calls : r.2.protocols = perform h.protocols (h.onActive .close ++ openings url h.closed)
  opened : ∀ i, opener? url h.closed = some i → r.1 = .ok () ∧ r.2.active = some i
  refused : opener? url h.closed = none → r.2.active = none ∧
    ∀ i, (supporting url h.closed).getLast? = some i →
      ∃ p e, h.closed[i]? = some p ∧ (ByteStream.openUrl url p).1 = .error e ∧ r.1 = .error e
  unsupported : supporting url h.closed = [] →
    ∃ name, Url.IsBeforeMark url name ∧ r.1 = .error (.pluginNotFound "Protocol" name)

/-- Protocol `p` at index `i` gets every call but those that open a URL, and answers it. -/
structure PassedOn (h : Hoster σ) (i : Nat) (p : σ) : Prop where
  read : ∀ position length, ByteStream.read position length h =
    ((ByteStream.read position length p).1,
      ⟨perform h.protocols [(i, .read position length)], some i⟩)
  seek : ∀ position, ByteStream.seek position h =
    ((ByteStream.seek position p).1, ⟨perform h.protocols [(i, .seek position)], some i⟩)
  close : ByteStream.close h = ((ByteStream.close p).1, ⟨perform h.protocols [(i, .close)], none⟩)

theorem dispatched_openUrl (url : String) (h : Hoster σ) :
    Dispatched url h (ByteStream.openUrl url h) := by
  have heq : ByteStream.openUrl url h = _ := openUrl_eq url h
  refine ⟨?_, fun i hi => ?_, fun hnone => ⟨?_, fun i hi => ?_⟩, fun hnone => ?_⟩
  · rw [heq, perform_append]
    cases opener? url h.closed <;> rfl
  · rw [heq, hi]
    exact ⟨rfl, rfl⟩
  · rw [heq, hnone]
  · have hsupporting : i ∈ supporting url h.closed := List.mem_of_getLast? hi
    obtain ⟨e, he⟩ := exists_refusalAt? hsupporting (List.find?_eq_none.1 hnone i hsupporting)
    obtain ⟨p, hp, hrefuses⟩ := refusalAt?_eq_some_iff.1 he
    refine ⟨p, e, hp, hrefuses, ?_⟩
    rw [heq, hnone, hi, Option.bind_some, he]
    rfl
  · refine ⟨Url.schemeOrAll url, Url.isBeforeMark_schemeOrAll url, ?_⟩
    rw [heq, opener?, hnone]
    rfl

theorem passedOn_of_active {h : Hoster σ} {i : Nat} {p : σ} (hactive : h.active = some i)
    (hp : h.protocols[i]? = some p) : PassedOn h i p where
  read position length := by
    have hfst := callActive_fst h (ByteStream.read position length)
    have hsnd := step_snd h (.stream (.read position length))
    rw [activeProtocol?_eq hactive hp] at hfst
    rw [calls, nextActive, onActive_of_active hactive, hactive] at hsnd
    exact Prod.ext hfst hsnd
  seek position := by
    have hfst := callActive_fst h (ByteStream.seek position)
    have hsnd := step_snd h (.stream (.seek position))
    rw [activeProtocol?_eq hactive hp] at hfst
    rw [calls, nextActive, onActive_of_active hactive, hactive] at hsnd
    exact Prod.ext hfst hsnd
  close := by
    have hfst := close_fst (Option.isSome_of_eq_some hactive)
    have hsnd := step_snd h (.stream .close)
    rw [activeProtocol?_eq hactive hp] at hfst
    rw [calls, nextActive, onActive_of_active hactive] at hsnd
    exact Prod.ext hfst hsnd

omit [Protocol σ] in
/-- A call on the active protocol fails for want of one exactly when there is none, or when
the active protocol itself says so. -/
theorem callActive_eq_noActiveProtocol_iff (h : Hoster σ) (f : σ → Outcome σ α) :
    (h.callActive f).1 = .error .noActiveProtocol ↔
      h.activeProtocol? = none ∨
        ∃ p, h.activeProtocol? = some p ∧ (f p).1 = .error .noActiveProtocol := by
  rw [callActive_fst]
  cases h.activeProtocol? <;> simp

theorem openUrl_dispatched_and_calls_passedOn (h : Hoster σ) :
    (∀ url, Dispatched url h (ByteStream.openUrl url h)) ∧
    (∀ i p, h.active = some i → h.protocols[i]? = some p → PassedOn h i p) ∧
    (h.active = none →
      (∀ position length,
        ByteStream.read position length h = (.error .noActiveProtocol, h)) ∧
      (∀ position, ByteStream.seek position h = (.error .noActiveProtocol, h)) ∧
      ByteStream.close h = (.ok (), h)) ∧
    (∀ position length, (ByteStream.read position length h).1 = .error .noActiveProtocol ↔
      h.activeProtocol? = none ∨ ∃ p, h.activeProtocol? = some p ∧
        (ByteStream.read position length p).1 = .error .noActiveProtocol) ∧
    (∀ position, (ByteStream.seek position h).1 = .error .noActiveProtocol ↔
      h.activeProtocol? = none ∨ ∃ p, h.activeProtocol? = some p ∧
        (ByteStream.seek position p).1 = .error .noActiveProtocol) := by
  refine ⟨fun url => dispatched_openUrl url h, fun i p => passedOn_of_active, fun hnone => ?_,
    fun position length => callActive_eq_noActiveProtocol_iff h _,
    fun position => callActive_eq_noActiveProtocol_iff h _⟩
  exact ⟨fun position length => callActive_of_none hnone _,
    fun position => callActive_of_none hnone _, close_of_none hnone⟩

/-- A tape that refuses every URL, and a copy of it that does not. -/
def tapes : Hoster ScriptedProtocol :=
  ⟨[{ name := "tape", urlStart := "t", failing := [.openUrl] },
    { name := "copy", urlStart := "t" }], none⟩

theorem openUrl_tapes :
    (ByteStream.openUrl "t://a" tapes).1 = .ok () ∧
      PassedOn (ByteStream.openUrl "t://a" tapes).2 1
        { name := "copy", urlStart := "t", isOpen := true } ∧
      ByteStream.close tapes = (.ok (), tapes) := by
  have hopened := (openUrl_dispatched_and_calls_passedOn tapes).1 "t://a"
  have hclosed := ((openUrl_dispatched_and_calls_passedOn tapes).2.2.1 rfl).2.2
  obtain ⟨hok, hactive⟩ := hopened.opened 1 rfl
  refine ⟨hok, ?_, hclosed⟩
  exact (openUrl_dispatched_and_calls_passedOn (ByteStream.openUrl "t://a" tapes).2).2.1 1 _
    hactive rfl

end StreamSource.Hoster
