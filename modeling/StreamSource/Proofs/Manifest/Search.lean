import StreamSource.Manifest.Catalog
import StreamSource.Proofs.Text.Casing

/-! Searching the catalog. Its texts are in ASCII, so a query selects something only if its small
form is in ASCII as well, and then the form is made character by character. A longer query selects
among what its parts select, in the order of the catalog, and capitals of ASCII make no
difference. -/

namespace StreamSource.Catalog

open Text

/-- The names and descriptions in the catalog are in ASCII. -/
theorem lt_of_mem_builtin {m : PluginManifest} (hm : m ∈ builtin) :
    (∀ c ∈ m.name.toList, c.toNat < 128) ∧ ∀ c ∈ m.description.toList, c.toNat < 128 := by
  have htexts : (builtin.all fun m =>
      m.name.toList.all (·.toNat < 128) && m.description.toList.all (·.toNat < 128)) = true := by
    cbv
  simpa only [Bool.and_eq_true, List.all_eq_true, decide_eq_true_eq] using
    List.all_eq_true.1 htexts m hm

theorem isMatch_iff {query : String} {m : PluginManifest} (hm : m ∈ builtin) :
    isMatch query m = true ↔ (∀ c ∈ query.toList, IsPlain c) ∧
      (query.toList.map plainSmall <:+: smallText m.name ∨
        query.toList.map plainSmall <:+: smallText m.description) := by
  obtain ⟨hname, hdescription⟩ := lt_of_mem_builtin hm
  rw [isMatch, Bool.or_eq_true, occursIn_smallText_iff (smallText_of_lt hname),
    occursIn_smallText_iff (smallText_of_lt hdescription), and_or_left]

section Queries

variable {q r : String}

/-- What a query selects, each of its parts selects. -/
theorem isMatch_of_isInfix (h : q.toList <:+: r.toList) {m : PluginManifest} (hm : m ∈ builtin)
    (hr : isMatch r m = true) : isMatch q m = true := by
  obtain ⟨hplain, hoccurs⟩ := (isMatch_iff hm).1 hr
  have hmap : q.toList.map plainSmall <:+: r.toList.map plainSmall := h.map plainSmall
  exact (isMatch_iff hm).2
    ⟨fun c hc => hplain c (h.subset hc), hoccurs.imp hmap.trans hmap.trans⟩

theorem mem_search_iff {m : PluginManifest} :
    m ∈ search q ↔ m ∈ builtin ∧
      (smallText q <:+: smallText m.name ∨ smallText q <:+: smallText m.description) := by
  rw [search, List.mem_filter, isMatch, Bool.or_eq_true, occursIn_iff, occursIn_iff]

theorem search_sublist_builtin (q : String) : (search q).Sublist builtin := List.filter_sublist

theorem search_sublist (h : q.toList <:+: r.toList) : (search r).Sublist (search q) := by
  have hfilter : search r = (search q).filter (isMatch r) := by
    rw [search, search, List.filter_filter]
    refine List.filter_congr fun m hm => ?_
    cases hr : isMatch r m with
    | false => rfl
    | true => rw [isMatch_of_isInfix h hm hr, Bool.true_and]
  rw [hfilter]
  exact List.filter_sublist

theorem search_empty : search "" = builtin := by
  refine List.filter_eq_self.2 fun m hm => (isMatch_iff hm).2 ⟨fun c hc => ?_, .inl ?_⟩
  · cases hc
  · exact List.nil_infix

/-- The plain forms of a text are those of the text in small letters of ASCII. -/
theorem map_plainSmall_map_toLower (cs : List Char) :
    (cs.map Char.toLower).map plainSmall = cs.map plainSmall := by
  rw [List.map_map]
  exact List.map_congr_left fun c _ => (plain_toLower c).2

theorem search_of_map_toLower (h : q.toList.map Char.toLower = r.toList.map Char.toLower) :
    search q = search r := by
  have hplain (s : String) :
      (∀ c ∈ s.toList.map Char.toLower, IsPlain c) ↔ ∀ c ∈ s.toList, IsPlain c := by
    simp only [List.forall_mem_map, (plain_toLower _).1]
  refine List.filter_congr fun m hm => Bool.eq_iff_iff.2 ?_
  rw [isMatch_iff hm, isMatch_iff hm, ← hplain, h, hplain,
    ← map_plainSmall_map_toLower q.toList, h, map_plainSmall_map_toLower]

end Queries

theorem map_manifest_listings (s : Settings) (query : Option String) :
    (listings s query).map (·.manifest) = (query.map search).getD builtin := by
  rw [listings, List.map_map]
  exact List.map_id _

theorem isDisabled_listings {s : Settings} {query : Option String} {l : Listing}
    (h : l ∈ listings s query) : l.isDisabled = true ↔ l.manifest.name ∈ s.plugins.disabled := by
  obtain ⟨m, _, rfl⟩ := List.mem_map.1 h
  exact List.contains_iff_mem

/-- A query selects, in the order of the catalog, the entries that have its small form in theirs.
The more it asks for, the less is selected, whatever the case of the letters, and the listing shows
what is selected with the state that the settings give it. -/
theorem search_narrows :
    search "" = builtin ∧
    (∀ q : String, (search q).Sublist builtin ∧ ∀ m, m ∈ search q ↔ m ∈ builtin ∧
      (smallText q <:+: smallText m.name ∨ smallText q <:+: smallText m.description)) ∧
    (∀ q r : String, q.toList <:+: r.toList → (search r).Sublist (search q)) ∧
    (∀ q r : String, q.toList.map Char.toLower = r.toList.map Char.toLower →
      search q = search r) ∧
    ∀ (s : Settings) (query : Option String),
      (listings s query).map (·.manifest) = (query.map search).getD builtin ∧
        ∀ l ∈ listings s query, l.isDisabled = true ↔ l.manifest.name ∈ s.plugins.disabled :=
  ⟨search_empty, fun q => ⟨search_sublist_builtin q, fun _ => mem_search_iff⟩,
    fun _ _ => search_sublist, fun _ _ => search_of_map_toLower,
    fun s query => ⟨map_manifest_listings s query, fun _ => isDisabled_listings⟩⟩

theorem search_rtmp : (search "RTMP").Sublist (search "rtm") := by
  obtain ⟨-, -, hparts, hcases, -⟩ := search_narrows
  rw [hcases "RTMP" "rtmp" (by decide)]
  exact hparts "rtm" "rtmp" ⟨[], ['p'], by decide⟩

end StreamSource.Catalog
