import StreamSource.Parser.Marker
import StreamSource.Proofs.Hoster.Memory
import StreamSource.Proofs.Parameters.Lookup

/-! Marker parsers on a hoster of memory protocols. Such a parser recognises the stream if its
marker is a prefix of the body that the hoster serves at the URL which the parameters give.
Neither this nor the protocols of the hoster depend on what was done before. -/

namespace StreamSource

open ByteStream Protocol

namespace MarkerParser

/-- The URL that parameters give: the text of the preferred one, or else of the other. -/
def givenUrl? (ps : Parameters) : Option String :=
  ((ps.value? Names.mshsManifest).or (ps.value? Names.url)).map ParameterValue.display

theorem url_eq (p : MarkerParser) :
    p.url =
      match givenUrl? p.parameters with
      | some u => .ok u
      | none => .error (.missingParameter Names.url) := by
  unfold url givenUrl? urlNames
  rw [List.find?_cons, List.find?_cons, List.find?_nil, Parameters.contains_eq_isSome,
    Parameters.contains_eq_isSome]
  cases hmanifest : p.parameters.value? Names.mshsManifest with
  | some v => simp [Parameters.textD, hmanifest]
  | none =>
    cases hurl : p.parameters.value? Names.url with
    | some v => simp [Parameters.textD, hurl]
    | none => rfl

/-- The first bytes of a body are recognised if the marker stands there. -/
theorem classify_slice_eq_recognized_iff {marker body : Bytes} :
    (∃ n, classify marker (body.slice 0 marker.length) = .recognized n) ↔ marker <+: body := by
  have hslice : body.slice 0 marker.length = body.take marker.length := rfl
  rw [hslice, List.prefix_iff_eq_take, classify]
  by_cases hhead : body.take marker.length = marker
  · rw [hhead, if_neg (by simp), if_pos rfl]
    simp
  · rw [if_neg hhead]
    simp only [eq_comm (a := marker), hhead, iff_false]
    rintro ⟨n, hn⟩
    split at hn <;> cases hn

theorem parse_of_openUrl_error {η : Type} [ByteStream η] {p : MarkerParser} {u : String} {h : η}
    (hu : p.url = .ok u) (hopen : (ByteStream.openUrl u h).1.isOk = false) :
    (p.parse h).1.isOk = false ∧ (p.parse h).2 = (ByteStream.openUrl u h).2 := by
  rw [parse, hu]
  simp only
  split
  · rename_i hr
    rw [hr]
    exact ⟨rfl, rfl⟩
  · rename_i hr
    rw [hr] at hopen
    cases hopen

theorem parse_of_openUrl_ok {η : Type} [ByteStream η] {p : MarkerParser} {u : String} {h : η}
    (hu : p.url = .ok u) (hopen : (ByteStream.openUrl u h).1.isOk = true) :
    p.parse h =
      ((ByteStream.read 0 p.marker.length (ByteStream.openUrl u h).2).1.map (classify p.marker),
        (ByteStream.read 0 p.marker.length (ByteStream.openUrl u h).2).2) := by
  rw [parse, hu]
  simp only
  split
  · rename_i hr
    rw [hr] at hopen
    cases hopen
  · rename_i hr
    rw [hr]
    rfl

theorem parse_of_url_error {η : Type} [ByteStream η] {p : MarkerParser} {e : Error}
    (hu : p.url = .error e) (h : η) : p.parse h = (.error e, h) := by
  rw [parse, hu]

theorem originals_parse (p : MarkerParser) (h : Hoster MemoryProtocol) :
    (p.parse h).2.originals = h.originals := by
  cases hu : p.url with
  | error e => rw [parse_of_url_error hu]
  | ok u =>
    have hopened : (ByteStream.openUrl u h).2.originals = h.originals :=
      h.originals_step (.stream (.openUrl u))
    by_cases hopen : (ByteStream.openUrl u h).1.isOk = true
    · rw [parse_of_openUrl_ok hu hopen, ← hopened]
      exact Hoster.originals_step _ (.stream (.read 0 p.marker.length))
    · rw [(parse_of_openUrl_error hu (by simpa using hopen)).2, hopened]

/-- What a marker parser says about a URL that is served. -/
theorem parse_of_served {p : MarkerParser} {u : String} {h : Hoster MemoryProtocol}
    {q : MemoryProtocol} (hu : p.url = .ok u)
    (hq : h.originals.find? (MemoryProtocol.serves u) = some q) :
    (p.parse h).1 = .ok (classify p.marker (q.body.slice 0 p.marker.length)) := by
  have hread : (ByteStream.read 0 p.marker.length (ByteStream.openUrl u h).2).1 =
      .ok (q.body.slice 0 p.marker.length) := Hoster.read_openUrl hq 0 p.marker.length
  rw [parse_of_openUrl_ok hu (Hoster.isOk_openUrl_iff.2 ⟨q, hq⟩), hread]
  rfl

theorem isOk_parse_of_unserved {p : MarkerParser} {u : String} {h : Hoster MemoryProtocol}
    (hu : p.url = .ok u) (hnone : h.originals.find? (MemoryProtocol.serves u) = none) :
    (p.parse h).1.isOk = false := by
  refine (parse_of_openUrl_error hu (Bool.eq_false_iff.2 fun hok => ?_)).1
  obtain ⟨q, hq⟩ := Hoster.isOk_openUrl_iff.1 hok
  rw [hnone] at hq
  cases hq

/-- The body that is served at the URL which the parameters give. -/
def servedBody? (ps : Parameters) (h : Hoster MemoryProtocol) : Option Bytes :=
  (givenUrl? ps).bind fun u => (h.originals.find? (MemoryProtocol.serves u)).map (·.body)

/-- A marker parser recognises the stream if the marker is a prefix of what is served. -/
theorem exists_recognized_iff {p : MarkerParser} {h : Hoster MemoryProtocol} :
    (∃ n, (p.parse h).1 = .ok (.recognized n)) ↔
      ∃ body, servedBody? p.parameters h = some body ∧ p.marker <+: body := by
  have hurl := p.url_eq
  unfold servedBody?
  cases hgiven : givenUrl? p.parameters with
  | none =>
    rw [hgiven] at hurl
    rw [parse_of_url_error hurl]
    simp
  | some u =>
    rw [hgiven] at hurl
    cases hq : h.originals.find? (MemoryProtocol.serves u) with
    | none =>
      have hfails := isOk_parse_of_unserved hurl hq
      simp only [Option.bind_some, hq, Option.map_none, reduceCtorEq, false_and, exists_false,
        iff_false]
      rintro ⟨n, hn⟩
      rw [hn] at hfails
      cases hfails
    | some q =>
      rw [parse_of_served hurl hq, Option.bind_some, hq]
      simp only [Except.ok.injEq, Option.map_some, Option.some.injEq, exists_eq_left']
      exact classify_slice_eq_recognized_iff

end MarkerParser

end StreamSource
