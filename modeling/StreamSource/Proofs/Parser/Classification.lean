import StreamSource.Proofs.Parser.Marker

/-! The three answers of a marker parser. A stream is recognised if the marker is a prefix of its
body, pending if the body ends within the marker, and neither in all other cases. A parse opens the
URL that the parameters give and fails only where this fails; it leaves the protocol open that the
URL was opened at. -/

namespace StreamSource

open ByteStream Protocol

/-! ### Reading and opening -/

namespace Hoster

/-- Reading does not change protocols from memory. -/
theorem read_snd (h : Hoster MemoryProtocol) (position : UInt64) (length : Nat) :
    (ByteStream.read position length h).2 = h := by
  have hmodify : perform h.protocols (h.onActive (.read position length)) = h.protocols := by
    refine List.ext_getElem? fun i => ?_
    rw [getElem?_perform_onActive]
    refine (congrArg (Option.map · _) (funext fun p => ?_)).trans Option.map_id'
    rw [step_read, MemoryProtocol.read_eq]
    split <;> [split; skip] <;> rfl
  exact (callActive_snd (c := .read position length) (fun _ => rfl) h).trans
    (congrArg (Hoster.mk · h.active) hmodify)

/-- No protocol from memory, and no hoster of such, asks for a parameter when it is opened. -/
theorem openUrl_ne_missingParameter (url name : String) (h : Hoster MemoryProtocol) :
    (openUrl url h).1 ≠ .error (.missingParameter name) := by
  rw [openUrl_eq]
  cases opener? url h.closed with
  | some i => exact nofun
  | none =>
    cases hlast : (supporting url h.closed).getLast?.bind (refusalAt? url h.closed) with
    | none => exact nofun
    | some e =>
      obtain ⟨i, -, hrefusal⟩ := Option.bind_eq_some_iff.1 hlast
      obtain ⟨p, -, he⟩ := refusalAt?_eq_some_iff.1 hrefusal
      rw [MemoryProtocol.openUrl_eq] at he
      split at he
      · cases he
        exact nofun
      · cases he

/-- A URL is opened at the first protocol that serves it, which is active afterwards. -/
theorem exists_active_of_isOk_openUrl {url : String} {h : Hoster MemoryProtocol}
    (hok : (openUrl url h).1.isOk = true) :
    ∃ q, (openUrl url h).2.activeProtocol? = some q ∧
      h.originals.find? (MemoryProtocol.serves url) = some q.reset := by
  rw [isOk_openUrl] at hok
  obtain ⟨p, hp⟩ := Option.isSome_iff_exists.1 hok
  refine ⟨(ByteStream.openUrl url p).2, by rw [activeProtocol?_openUrl, hp]; rfl, ?_⟩
  rw [← find?_opens_closed, hp]
  exact congrArg some (MemoryProtocol.reset_step p (.openUrl url)).symm

end Hoster

namespace MarkerParser

/-! ### The answer -/

/-- What a marker says of a body. -/
structure Classifies (marker body : Bytes) (r : ParseResult) : Prop where
  recognized_iff : r = .recognized 1 ↔ marker <+: body
  pending_iff : r = .pending ↔ body <+: marker ∧ body ≠ marker
  notRecognized_iff :
    r = .notRecognized ↔ ¬ marker <+: body ∧ ¬ (body <+: marker ∧ body ≠ marker)

section Classify

variable {marker body : Bytes}

theorem slice_zero (n : Nat) (bs : Bytes) : bs.slice 0 n = bs.take n := rfl

theorem classify_slice_of_startsBody (h : marker <+: body) :
    classify marker (body.slice 0 marker.length) = .recognized 1 := by
  rw [slice_zero, ← List.prefix_iff_eq_take.1 h, classify,
    if_neg fun hshort => Nat.lt_irrefl _ hshort.1, if_pos rfl]

/-- The body may end within the marker. -/
theorem classify_slice_of_endsWithin (h : body <+: marker) (hne : body ≠ marker) :
    classify marker (body.slice 0 marker.length) = .pending := by
  have hlength : body.length < marker.length :=
    Nat.lt_of_le_of_ne h.length_le fun heq => hne (h.eq_of_length heq)
  rw [slice_zero, List.take_of_length_le (Nat.le_of_lt hlength), classify,
    if_pos ⟨hlength, List.isPrefixOf_iff_prefix.2 h⟩]

theorem classify_slice_of_diverges (hmarker : ¬ marker <+: body) (hbody : ¬ body <+: marker) :
    classify marker (body.slice 0 marker.length) = .notRecognized := by
  have hhead : ¬ body.take marker.length = marker :=
    fun heq => hmarker (List.prefix_iff_eq_take.2 heq.symm)
  rw [slice_zero, classify, if_neg, if_neg hhead]
  rintro ⟨hshort, hprefix⟩
  -- what is read is all of the body, for it is less than the marker
  rw [List.length_take] at hshort
  rw [List.isPrefixOf_iff_prefix, List.take_of_length_le (by omega)] at hprefix
  exact hbody hprefix

theorem classifies_slice (marker body : Bytes) :
    Classifies marker body (classify marker (body.slice 0 marker.length)) := by
  by_cases hmarker : marker <+: body
  · rw [classify_slice_of_startsBody hmarker]
    have hwithin : ¬ (body <+: marker ∧ body ≠ marker) :=
      fun h => h.2 (h.1.eq_of_length_le hmarker.length_le)
    constructor <;> simp [hmarker, hwithin]
  · by_cases hbody : body <+: marker
    · have hne : body ≠ marker := fun heq => hmarker (heq ▸ List.prefix_rfl)
      rw [classify_slice_of_endsWithin hbody hne]
      constructor <;> simp [hmarker, hbody, hne]
    · rw [classify_slice_of_diverges hmarker hbody]
      constructor <;> simp [hmarker, hbody]

end Classify

/-! ### Parses -/

/-- Neither of the parameters that may give the URL is there. -/
def LacksUrl (ps : Parameters) : Prop :=
  ps.contains Names.mshsManifest = false ∧ ps.contains Names.url = false

theorem givenUrl?_eq_none_iff {ps : Parameters} : givenUrl? ps = none ↔ LacksUrl ps := by
  rw [givenUrl?, LacksUrl, Option.map_eq_none_iff, Option.or_eq_none_iff,
    Parameters.contains_eq_isSome, Parameters.contains_eq_isSome, Option.isSome_eq_false_iff,
    Option.isSome_eq_false_iff, Option.isNone_iff_eq_none, Option.isNone_iff_eq_none]

variable {p : MarkerParser} {u : String} {h : Hoster MemoryProtocol}

theorem parse_of_lacksUrl (hlacks : LacksUrl p.parameters) :
    p.parse h = (.error (.missingParameter Names.url), h) := by
  have hurl := p.url_eq
  rw [givenUrl?_eq_none_iff.2 hlacks] at hurl
  exact parse_of_url_error hurl h

theorem url_of_given (hgiven : givenUrl? p.parameters = some u) : p.url = .ok u := by
  rw [url_eq, hgiven]

theorem parse_of_refused (hgiven : givenUrl? p.parameters = some u) {e : Error}
    (hopen : (openUrl u h).1 = .error e) :
    p.parse h = (.error e, (openUrl u h).2) := by
  have hresult : openUrl u h = (.error e, (openUrl u h).2) := Prod.ext hopen rfl
  rw [parse, url_of_given hgiven]
  simp only
  rw [hresult]

/-- Where the URL is opened, its body is classified and nothing else is done. -/
theorem exists_parse_of_opened (hgiven : givenUrl? p.parameters = some u)
    (hopen : (openUrl u h).1 = .ok ()) :
    ∃ q r, p.parse h = (.ok r, (openUrl u h).2) ∧
      (openUrl u h).2.activeProtocol? = some q ∧
      h.originals.find? (MemoryProtocol.serves u) = some q.reset ∧
      Classifies p.marker q.body r := by
  have hok : (openUrl u h).1.isOk = true := by rw [hopen]; rfl
  obtain ⟨q, hactive, hfirst⟩ := Hoster.exists_active_of_isOk_openUrl hok
  have hread : (ByteStream.read 0 p.marker.length (openUrl u h).2).1 =
      .ok (q.body.slice 0 p.marker.length) := Hoster.read_openUrl hfirst 0 p.marker.length
  refine ⟨q, classify p.marker (q.body.slice 0 p.marker.length), ?_, hactive, hfirst,
    classifies_slice p.marker q.body⟩
  rw [parse_of_openUrl_ok (url_of_given hgiven) hok, hread, Hoster.read_snd]
  rfl

/-- A parse asks for the URL exactly if no parameter gives one, and then it does nothing else.
With a URL it ends with the refusal of the hoster, or it says what the marker says of the body that
the opened protocol serves; either way the hoster is left as opening the URL leaves it. -/
theorem parse_classifies (p : MarkerParser) (h : Hoster MemoryProtocol) :
    ((p.parse h).1 = .error (.missingParameter Names.url) ↔ LacksUrl p.parameters) ∧
    (LacksUrl p.parameters → p.parse h = (.error (.missingParameter Names.url), h)) ∧
    (¬ LacksUrl p.parameters → ∃ u, givenUrl? p.parameters = some u ∧
      (∀ e, (openUrl u h).1 = .error e → p.parse h = (.error e, (openUrl u h).2)) ∧
      ((openUrl u h).1 = .ok () →
        ∃ q r, p.parse h = (.ok r, (openUrl u h).2) ∧
          (openUrl u h).2.activeProtocol? = some q ∧
          h.originals.find? (MemoryProtocol.serves u) = some q.reset ∧
          Classifies p.marker q.body r ∧
          (p.marker = [] → r = .recognized 1))) := by
  have hgives (hpresent : ¬ LacksUrl p.parameters) : ∃ u, givenUrl? p.parameters = some u :=
    Option.ne_none_iff_exists'.1 fun hnone => hpresent (givenUrl?_eq_none_iff.1 hnone)
  refine ⟨⟨fun hmissing => ?_, fun hlacks => by rw [parse_of_lacksUrl hlacks]⟩,
    parse_of_lacksUrl, fun hpresent => ?_⟩
  · by_contra hpresent
    obtain ⟨u, hgiven⟩ := hgives hpresent
    cases hopen : (openUrl u h).1 with
    | error e =>
      rw [parse_of_refused hgiven hopen] at hmissing
      cases hmissing
      exact Hoster.openUrl_ne_missingParameter u Names.url h hopen
    | ok _ =>
      obtain ⟨q, r, hparse, -⟩ := exists_parse_of_opened hgiven hopen
      rw [hparse] at hmissing
      cases hmissing
  · obtain ⟨u, hgiven⟩ := hgives hpresent
    refine ⟨u, hgiven, fun e => parse_of_refused hgiven, fun hopen => ?_⟩
    obtain ⟨q, r, hparse, hactive, hfirst, hclass⟩ := exists_parse_of_opened hgiven hopen
    refine ⟨q, r, hparse, hactive, hfirst, hclass, fun hempty => ?_⟩
    exact hclass.recognized_iff.2 (hempty ▸ List.nil_prefix)

/-- A body that ends within the marker. -/
theorem parse_of_shortBody :
    let h : Hoster MemoryProtocol :=
      ⟨[{ name := "disk", schemes := ["d"], body := [70, 76] }], none⟩
    let p : MarkerParser := ⟨"flv", [70, 76, 86], .ofPairs [(Names.url, .text "d://a")]⟩
    ¬ LacksUrl p.parameters ∧ (openUrl "d://a" h).1 = .ok () ∧ (p.parse h).1 = .ok .pending := by
  intro h p
  have hpresent : ¬ LacksUrl p.parameters := fun hlacks => absurd hlacks.2 (by decide)
  have hopen : (openUrl "d://a" h).1 = .ok () := by rfl
  obtain ⟨u, hgiven, -, hopened⟩ := (parse_classifies p h).2.2 hpresent
  obtain rfl : u = "d://a" := Option.some.inj (hgiven.symm.trans (by rfl))
  obtain ⟨q, r, hparse, -, hfirst, hclass, -⟩ := hopened hopen
  have hbody : q.body = [70, 76] := congrArg (·.body) (Option.some.inj hfirst).symm
  have hpending : r = .pending := hclass.pending_iff.2 (hbody ▸ by decide)
  exact ⟨hpresent, hopen, by rw [hparse, hpending]⟩

end MarkerParser

end StreamSource
