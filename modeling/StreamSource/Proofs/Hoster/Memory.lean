import StreamSource.Proofs.Hoster.Calls
import StreamSource.Proofs.Protocol.Kinds

/-! Hosters of protocols served from memory. Whatever is done with such a hoster, its
protocols are those that it was made with but for what they were opened at; and a URL, when
it is opened, is served by the first of them that supports it and does not refuse. -/

namespace StreamSource

open ByteStream Protocol

namespace MemoryProtocol

/-- Whether the protocol opens a URL that it is offered. -/
def serves (url : String) (p : MemoryProtocol) : Bool := supports p url && !p.refusesToOpen

theorem serves_reset (url : String) (p : MemoryProtocol) : p.reset.serves url = p.serves url := rfl

theorem isOk_openUrl (url : String) (p : MemoryProtocol) :
    (ByteStream.openUrl url p).1.isOk = !p.refusesToOpen := by
  rw [openUrl_eq]
  cases p.refusesToOpen <;> rfl

/-- What is read from a protocol that was just opened. -/
theorem read_openUrl {url : String} {p : MemoryProtocol} (hp : p.serves url = true)
    (position : UInt64) (length : Nat) :
    (ByteStream.read position length (ByteStream.openUrl url p).2).1 =
      .ok (p.body.slice position length) := by
  have hrefuses : p.refusesToOpen = false := by
    simpa using (Bool.and_eq_true_iff.1 hp).2
  rw [openUrl_eq, hrefuses]
  rfl

end MemoryProtocol

namespace Hoster

open MemoryProtocol (reset serves)

/-- The protocols as they were when the hoster was made. -/
def originals (h : Hoster MemoryProtocol) : List MemoryProtocol := h.protocols.map reset

theorem map_reset_perform (ps : List MemoryProtocol) (calls : List (Nat × StreamStep)) :
    (perform ps calls).map reset = ps.map reset := by
  refine List.ext_getElem? fun i => ?_
  rw [List.getElem?_map, List.getElem?_map, getElem?_perform, Option.map_map]
  exact congrArg (Option.map · _) (funext fun p => p.reset_after _)

theorem originals_step (h : Hoster MemoryProtocol) (s : Step) :
    (h.step s).2.originals = h.originals := by
  rw [step_snd]
  exact map_reset_perform _ _

theorem opens_eq_serves (url : String) : opens url = serves url := by
  funext p
  rw [opens, MemoryProtocol.isOk_openUrl, serves]

/-- The calls made on the protocols so far do not matter to which of them opens a URL. -/
theorem find?_opens_closed (url : String) (h : Hoster MemoryProtocol) :
    (h.closed.find? (opens url)).map reset = h.originals.find? (serves url) := by
  have horiginals : h.closed.map reset = h.originals := map_reset_perform _ _
  have hserves : serves url ∘ reset = serves url := funext (MemoryProtocol.serves_reset url)
  rw [← horiginals, List.find?_map, hserves, opens_eq_serves]

/-- Opening a URL fails exactly if no protocol serves it. -/
theorem isOk_openUrl_iff {url : String} {h : Hoster MemoryProtocol} :
    (openUrl url h).1.isOk = true ↔ ∃ p, h.originals.find? (serves url) = some p := by
  rw [isOk_openUrl, ← find?_opens_closed, ← Option.isSome_iff_exists, Option.isSome_map]

/-- After a URL was opened, what is read is the body of the first protocol that serves it. -/
theorem read_openUrl {url : String} {h : Hoster MemoryProtocol} {p : MemoryProtocol}
    (hp : h.originals.find? (serves url) = some p) (position : UInt64) (length : Nat) :
    (ByteStream.read position length (openUrl url h).2).1 = .ok (p.body.slice position length) := by
  rw [← find?_opens_closed] at hp
  obtain ⟨q, hq, rfl⟩ := Option.map_eq_some_iff.1 hp
  have hserves : q.serves url = true := opens_eq_serves url ▸ List.find?_some hq
  have hread := callActive_fst (openUrl url h).2 (ByteStream.read position length)
  rw [activeProtocol?_openUrl, hq] at hread
  exact hread.trans (MemoryProtocol.read_openUrl hserves position length)

end Hoster

end StreamSource
