import StreamSource.Proofs.Settings.KeyScan
import StreamSource.Proofs.Settings.UnknownKey
import StreamSource.Proofs.Toml.Placed

/-! Where a report shows an unknown key. The bytes shown are the key, and they stand behind the
first place of the header of its section. This header is looked for in the text as it stands, so
the key is shown in its section if no comment and no value has the header before, and if the key
is a bare word in a line of the section. -/

namespace StreamSource

open KeyPosition (FirstKeyAt KeyAt IsSeparator size)
open Text (FirstCut)

namespace Toml

/-- Whether a line opens a table. -/
def Line.isHeader : Line → Bool
  | .header .. | .arrayHeader .. => true
  | .entry .. => false

theorem isHeader_of_entryLine? {fuel : Nat} {cs r : List Char} {l : Line}
    (h : entryLine? fuel cs = some (l, r)) : l.isHeader = false := by
  simp only [entryLine?, Option.bind_eq_bind, Option.bind_eq_some_iff, Prod.exists] at h
  obtain ⟨path, key, r', _, h⟩ := h
  split at h
  next =>
    simp only [Option.bind_eq_some_iff, Prod.exists, Option.pure_def, Option.some.injEq,
      Prod.mk.injEq] at h
    obtain ⟨v, r', _, _, _, rfl, _⟩ := h
    rfl
  next => cases h

/-- Whether a line opens a table at a byte of a text or before it. -/
def opensBy (content : String) (offset : Nat) (p : Placed) : Bool :=
  p.line.isHeader && decide (size content.toList - size p.text ≤ offset)

/-- The header in force at a byte of a text: the last one that begins there or before. -/
def headerAt? (content : String) (offset : Nat) : Option Line :=
  (placedLines? content).bind fun ps =>
    ((ps.filter (opensBy content offset)).getLast?).map Placed.line

/-- What comes behind a character is an end of what comes behind its first place. -/
theorem suffix_of_notMem {c : Char} {a b s : List Char} (hc : c ∉ a) (h : c :: s <:+ a ++ c :: b) :
    s <:+ b := by
  induction a with
  | nil =>
    rcases List.suffix_cons_iff.1 h with heq | h
    · exact (List.cons.inj heq).2 ▸ List.suffix_rfl
    · exact (List.suffix_cons c s).trans h
  | cons d a ih =>
    obtain ⟨hd, ha⟩ := not_or.1 (mt List.mem_cons.2 hc)
    rcases List.suffix_cons_iff.1 h with heq | h
    · exact absurd (List.cons.inj heq).1 hd
    · exact ih ha h

theorem EndsLine.size_lt {cs r : List Char} (h : EndsLine cs r) (hne : cs ≠ []) :
    size r < size cs := by
  obtain ⟨a, rfl, hlast⟩ := h
  have ha : a ≠ [] := by
    rintro rfl
    rcases hlast with rfl | hlast
    · exact hne rfl
    · cases hlast
  have hpos := KeyPosition.size_pos ha
  rw [KeyPosition.size_append]
  omega

/-- Behind a header without spaces, the rest of its line ends. -/
theorem Placed.Reads.endsLine_behind {p : Placed} {name : String} {rest : List Char}
    (h : p.Reads) (hline : p.line = .header [] name)
    (htext : p.text = KeyPosition.header name ++ rest) (hname : ']' ∉ name.toList) :
    EndsLine rest p.rest := by
  cases h with
  | header r htext' hread =>
    rw [hline] at hread
    obtain ⟨left, hclose, hend⟩ := exists_close_of_headerLine? hread
    obtain rfl : r = name.toList ++ ']' :: rest := by
      have heq := htext'.symm.trans htext
      simpa [KeyPosition.header] using heq
    exact hend.of_suffix (suffix_of_notMem hname hclose)
  | entry fuel hread =>
    have hentry := isHeader_of_entryLine? hread
    rw [hline] at hentry
    cases hentry

end Toml

/-! ### Keys written as bare words -/

open Toml (Placed placedLines? headerAt? isBareKeyChar)

/-- A line gives a value to the key, which is a bare word at its start. -/
structure BareEntry (key : String) (line : Placed) : Prop where
  entry : ∃ v, line.line = .entry [] key v
  nonempty : key.toList ≠ []
  bare : ∀ c ∈ key.toList, isBareKeyChar c = true
  separated : ∃ c r, line.text = key.toList ++ c :: r ∧ IsSeparator c

/-- A key stands as a bare word in a line of the table that a header opens, and nowhere in the
text does the header stand before. -/
structure WrittenUnder (content name key : String) (opening line : Placed) : Prop extends
    BareEntry key line where
  lines : ∃ ps qs rs, placedLines? content = some (ps ++ opening :: (qs ++ line :: rs)) ∧
    ∀ p ∈ qs, p.line.isHeader = false
  header : opening.line = .header [] name
  first : ∃ a rest, FirstCut (KeyPosition.header name) content.toList a rest ∧
    opening.text = KeyPosition.header name ++ rest

/-- A key stands as a bare word in a line before all headers, and in brackets it stands in the
text before this line. -/
structure WrittenAtTop (content key : String) (line : Placed) : Prop extends
    BareEntry key line where
  lines : ∃ ps rs, placedLines? content = some (ps ++ line :: rs) ∧
    ∀ p ∈ ps, p.line.isHeader = false
  behind : ∃ a rest, FirstCut (KeyPosition.header key) content.toList a rest ∧ line.Within rest

theorem isBlank_of_isSpace {c : Char} (h : Toml.isSpace c = true) : Text.isBlank c = true := by
  simp only [Toml.isSpace, Bool.or_eq_true, decide_eq_true_eq] at h
  rcases h with rfl | rfl <;> decide

theorem isBlank_of_isBareKeyChar {c : Char} (h : isBareKeyChar c = true) :
    Text.isBlank c = false := by
  simp only [isBareKeyChar, Bool.or_eq_true, decide_eq_true_eq] at h
  rcases h with (h | rfl) | rfl
  · exact Text.isBlank_of_graphic (Text.graphic_of_isAlphanum h)
  · decide
  · decide

/-- A line that begins with a bare key has it in the sense of the search. -/
theorem BareEntry.keyAt {key : String} {line : Placed} {cs : List Char} (h : BareEntry key line)
    (hwithin : line.Within cs) :
    ∃ before after, KeyAt key.toList cs before after ∧ cs = before ++ line.text := by
  obtain ⟨a, b, rfl, ha, hb⟩ := hwithin
  obtain ⟨c, r, htext, hc⟩ := h.separated
  refine ⟨a ++ b, c :: r, ⟨?_, ?_, ⟨a, b, rfl, ha, fun d hd => isBlank_of_isSpace (hb d hd)⟩, ?_,
    c, rfl, hc⟩, ?_⟩
  · rw [htext, List.append_assoc]
  · exact fun hmem => absurd (h.bare _ hmem) (by decide)
  · obtain ⟨d, key', hkey⟩ := List.exists_cons_of_ne_nil h.nonempty
    have hd : isBareKeyChar d = true := h.bare d (hkey ▸ List.mem_cons_self)
    rw [hkey]
    rintro _ ⟨⟩
    exact isBlank_of_isBareKeyChar hd
  · rw [List.append_assoc]

/-- The search behind a header comes no further than to such a line. -/
theorem BareEntry.offset_le {content name key : String} {line : Placed} (h : BareEntry key line)
    {a rest : List Char} (hfirst : FirstCut (KeyPosition.header name) content.toList a rest)
    (hwithin : line.Within rest) {path : List String} {o : Nat}
    (ho : KeyPosition.offset? content (name :: path) key = some o) :
    size a ≤ o ∧ o + size line.text ≤ size content.toList := by
  obtain ⟨before, after, hat, hbefore⟩ := h.keyAt hwithin
  obtain ⟨a', rest', before', after', hcut, hkey, heq⟩ :=
    KeyPosition.offset?_cons_eq_some_iff.1 ho
  obtain ⟨rfl, rfl⟩ := hcut.unique hfirst
  have hfound : size before' ≤ size before :=
    KeyPosition.size_le_of_prefix (List.prefix_of_prefix_length_le ⟨_, hkey.eq_append.symm⟩
      ⟨_, hbefore.symm⟩ (hkey.first _ _ hat))
  have hcontent : size content.toList =
      size a' + size (KeyPosition.header name) + (size before + size line.text) := by
    rw [hfirst.eq_append, hbefore]
    simp only [KeyPosition.size_append]
  omega

/-- Up to a line that is no header, only the lines before it may have opened a table. -/
theorem not_opensBy {content : String} {o : Nat} {line : Placed} {ps rs : List Placed}
    (hlines : placedLines? content = some (ps ++ line :: rs)) (hline : line.line.isHeader = false)
    (hle : o + size line.text ≤ size content.toList) :
    ∀ p ∈ line :: rs, ¬ Toml.opensBy content o p = true := by
  obtain ⟨cs, -, horder⟩ := Toml.inOrder_of_placedLines? hlines
  obtain ⟨-, hbehind, -⟩ := List.pairwise_append.1 horder.behind
  have hread : line.Reads := horder.reads line (List.mem_append_right ps List.mem_cons_self)
  intro p hp hopens
  obtain ⟨hheader, hbefore⟩ := Bool.and_eq_true_iff.1 hopens
  rcases List.mem_cons.1 hp with rfl | hp
  · rw [hline] at hheader
    cases hheader
  · have hwithin : p.Within line.rest := (List.pairwise_cons.1 hbehind).1 p hp
    have hsuffix : size p.text ≤ size line.rest := KeyPosition.size_le_of_suffix hwithin.suffix
    have hlt : size line.rest < size line.text := hread.endsLine.size_lt hread.ne_nil
    have hbefore := of_decide_eq_true hbefore
    omega

theorem BareEntry.isHeader {key : String} {line : Placed} (h : BareEntry key line) :
    line.line.isHeader = false := by
  obtain ⟨v, hv⟩ := h.entry
  rw [hv]
  rfl

theorem WrittenUnder.headerAt?_eq {content name key : String} {opening line : Placed}
    (h : WrittenUnder content name key opening line) (hname : ']' ∉ name.toList)
    {path : List String} {o : Nat} (ho : KeyPosition.offset? content (name :: path) key = some o) :
    headerAt? content o = some (.header [] name) := by
  obtain ⟨ps, qs, rs, hlines, hqs⟩ := h.lines
  obtain ⟨a, rest, hfirst, htext⟩ := h.first
  have hwithin : line.Within rest := by
    obtain ⟨cs, -, horder⟩ := Toml.inOrder_of_placedLines? hlines
    obtain ⟨-, hbehind, -⟩ := List.pairwise_append.1 horder.behind
    have hreads : ∀ p ∈ opening :: (qs ++ line :: rs), p.Reads := fun p hp =>
      horder.reads p (List.mem_append_right ps hp)
    refine ((List.pairwise_cons.1 hbehind).1 line (by simp)).of_endsLine
      (hreads line (by simp)).ne_nil ?_
    exact (hreads opening List.mem_cons_self).endsLine_behind h.header htext hname
  obtain ⟨hle, hbefore⟩ := h.offset_le hfirst hwithin ho
  have hopens : Toml.opensBy content o opening = true := by
    refine Bool.and_eq_true_iff.2 ⟨by rw [h.header]; rfl, decide_eq_true ?_⟩
    have hcontent : size content.toList = size a + size opening.text := by
      rw [hfirst.eq_append, htext, List.append_assoc, KeyPosition.size_append]
    omega
  have hnone : ∀ p ∈ qs ++ line :: rs, ¬ Toml.opensBy content o p = true := by
    intro p hp
    rcases List.mem_append.1 hp with hp | hp
    · intro hopens
      rw [Toml.opensBy, hqs p hp] at hopens
      cases hopens
    · have hlines' : placedLines? content = some ((ps ++ opening :: qs) ++ line :: rs) := by
        rw [hlines]
        simp
      exact not_opensBy hlines' h.isHeader hbefore p hp
  rw [headerAt?, hlines, Option.bind_some, List.filter_append, List.filter_cons_of_pos hopens,
    List.filter_eq_nil_iff.2 hnone, List.getLast?_concat, Option.map_some, h.header]

theorem WrittenAtTop.headerAt?_eq {content key : String} {line : Placed}
    (h : WrittenAtTop content key line) {path : List String} {o : Nat}
    (ho : KeyPosition.offset? content (key :: path) key = some o) :
    headerAt? content o = none := by
  obtain ⟨ps, rs, hlines, hps⟩ := h.lines
  obtain ⟨a, rest, hfirst, hwithin⟩ := h.behind
  have hnone : ∀ p ∈ ps ++ line :: rs, ¬ Toml.opensBy content o p = true := by
    intro p hp
    rcases List.mem_append.1 hp with hp | hp
    · intro hopens
      rw [Toml.opensBy, hps p hp] at hopens
      cases hopens
    · exact not_opensBy hlines h.isHeader (h.offset_le hfirst hwithin ho).2 p hp
  rw [headerAt?, hlines, Option.bind_some, List.filter_eq_nil_iff.2 hnone]
  rfl

/-! ### Reports -/

/-- The only text there is is the one in which a key is looked for. -/
theorem Diagnosis.exists_of_span? {src : SourceText} {f : LoadFault} {key : String} {span : Span}
    (h : span? [src] f key = some span) :
    ∃ o, KeyPosition.offset? src.content f.path key = some o ∧
      span = ⟨src.name, o, size key.toList⟩ := by
  obtain ⟨src', hsource, hoffset⟩ := Option.bind_eq_some_iff.1 h
  obtain rfl : src' = src := by
    unfold sourceOf? at hsource
    split at hsource
    next => exact List.mem_singleton.1 (List.mem_of_find?_eq_some hsource)
    next => exact (Option.some.inj hsource).symm
  obtain ⟨o, ho, rfl⟩ := Option.map_eq_some_iff.1 hoffset
  exact ⟨o, ho, rfl⟩

namespace Settings

variable {content key : String} {valid : List String} {ds : List Diagnosis}

/-- A report of an unknown key comes of the layer of the text. -/
theorem exists_fault_of_ofCheckedText {span : Option Span} (h : ofCheckedText content = .error ds)
    (hmem : .unknownKey key valid span ∈ ds) :
    ∃ l f, Layer.ofText .inline content = .ok l ∧ ofLayer l = .error f ∧
      f.cause = .unknownField key valid ∧
      span = Diagnosis.span? [⟨"<inline>", content⟩] f key := by
  unfold ofCheckedText diagnose at h
  split at h
  next s _ =>
    unfold check at h
    split at h <;> cases h
    obtain ⟨_, _, hviolation⟩ := List.mem_map.1 hmem
    cases hviolation
  next fs hfs =>
    cases h
    obtain ⟨f, hf, hfault⟩ := List.mem_map.1 hmem
    obtain ⟨hcause, hspan⟩ : f.cause = .unknownField key valid ∧
        Diagnosis.span? [⟨"<inline>", content⟩] f key = span := by
      unfold Diagnosis.ofFault at hfault
      split at hfault <;> cases hfault
      exact ⟨‹_›, rfl⟩
    cases hlayer : Layer.ofText .inline content with
    | error g =>
      -- a text that is no document is not at fault for a key
      have hmalformed : g = { cause := .malformed } := by
        unfold Layer.ofText at hlayer
        split at hlayer <;> cases hlayer
        rfl
      rw [ofText, hlayer, hmalformed] at hfs
      cases hfs
      rw [List.mem_singleton.1 hf] at hcause
      cases hcause
    | ok l =>
      have hone : ofLayers [.ok l] = (ofLayer l).mapError fun f => [f] := by
        have hstack := ofLayers_ok [l]
        rwa [Layer.stack_singleton (Layer.ordered_of_ofText hlayer)] at hstack
      rw [ofText, hlayer, hone] at hfs
      cases hread : ofLayer l with
      | ok s =>
        rw [hread] at hfs
        cases hfs
      | error g =>
        rw [hread] at hfs
        cases hfs
        exact ⟨l, f, rfl, List.mem_singleton.1 hf ▸ hread, hcause, hspan.symm⟩

/-- What a report shows of an unknown key that was looked for under `head`: the bytes of the key,
first in their line behind the first place of the header. -/
structure Shows (content key head : String) (span : Span) : Prop where
  source : span.source = "<inline>"
  bytes : ((Text.utf8 content).drop span.offset).take span.length = Text.utf8 key
  place : ∃ a rest before after, FirstCut (KeyPosition.header head) content.toList a rest ∧
    FirstKeyAt key.toList rest before after ∧
    span.offset = size a + size (KeyPosition.header head) + size before

theorem shows_of_offset? {head : String} {path : List String} {o : Nat}
    (ho : KeyPosition.offset? content (head :: path) key = some o) :
    Shows content key head ⟨"<inline>", o, size key.toList⟩ := by
  obtain ⟨a, rest, before, after, hcut, hkey, rfl⟩ := KeyPosition.offset?_cons_eq_some_iff.1 ho
  refine ⟨rfl, ?_, a, rest, before, after, hcut, hkey, rfl⟩
  have hcontent : content.toList =
      a ++ KeyPosition.header head ++ before ++ (key.toList ++ after) := by
    rw [hcut.eq_append, hkey.eq_append]
    simp only [List.append_assoc]
  rw [← KeyPosition.size_append, ← KeyPosition.size_append]
  exact KeyPosition.take_drop_utf8 hcontent

theorem notMem_of_schema? {name : String} (h : (schema? name).isSome = true) :
    ']' ∉ name.toList := by
  unfold schema? at h
  split at h
  next => decide
  next => decide
  next => decide
  next => decide
  next => cases h

/-- Where an unknown key is shown, the bytes shown are the key, and it was looked for behind the
first place of a header: at the top, of its own name in brackets, and in a section, of the header
of the section. If the key is a bare word and this place is not in the way, the header in force
where it is shown is that of the section, and there is none for a key at the top. -/
theorem ofCheckedText_unknownKey {span : Span} (h : ofCheckedText content = .error ds)
    (hmem : .unknownKey key valid (some span) ∈ ds) :
    ∃ l head path, Layer.ofText .inline content = .ok l ∧ l.Unknown key valid (head :: path) ∧
      Shows content key head span ∧
      ((schema? head).isSome = true → ∀ opening line, WrittenUnder content head key opening line →
        headerAt? content span.offset = some (.header [] head)) ∧
      (schema? head = none → ∀ line, WrittenAtTop content key line →
        headerAt? content span.offset = none) := by
  obtain ⟨l, f, hlayer, hfault, hcause, hspan⟩ := exists_fault_of_ofCheckedText h hmem
  have hunknown := Layer.unknown_of_ofLayer (Layer.ordered_of_ofText hlayer) hfault hcause
  obtain ⟨o, ho, rfl⟩ := Diagnosis.exists_of_span? hspan.symm
  obtain ⟨head, path, hpath⟩ := hunknown.exists_eq_cons
  rw [hpath] at hunknown ho
  refine ⟨l, head, path, hlayer, hunknown, shows_of_offset? ho, fun hschema opening line hw => ?_,
    fun hnone line hw => ?_⟩
  · exact hw.headerAt?_eq (notMem_of_schema? hschema) ho
  · obtain rfl : head = key := by
      cases hunknown with
      | top => rfl
      | field _ s hs =>
        rw [hs] at hnone
        cases hnone
    exact hw.headerAt?_eq ho

/-! ### Texts with one unknown key -/

theorem ofCheckedText_of_unknownField {path : List String} {o : Nat}
    (hfault : ofText content = .error [⟨.unknownField key valid, path, some .inline, true⟩])
    (ho : KeyPosition.offset? content path key = some o) :
    ofCheckedText content =
      .error [.unknownKey key valid (some ⟨"<inline>", o, size key.toList⟩)] := by
  have hspan : Diagnosis.span? [⟨"<inline>", content⟩]
      ⟨.unknownField key valid, path, some .inline, true⟩ key =
        some ⟨"<inline>", o, size key.toList⟩ := by
    change (KeyPosition.offset? content _ _).map _ = _
    rw [ho]
    rfl
  rw [ofCheckedText, hfault]
  change Except.error [Diagnosis.unknownKey _ _ (Diagnosis.span? _ _ _)] = _
  rw [hspan]

/-- A text with the same key in two sections, of which the second does not declare it. -/
def twoSections : String := "[parameters]\ncookies = 'a'\n\n[http]\ncookies = 'b'\n"

/-- The same text below a comment that speaks of the second section. -/
def commented : String := "# see [http] below\n" ++ twoSections

/-- A key at the top below a comment that has it in brackets. -/
def atTop : String := "# no [colour]\ncolour = 'c'\n"

theorem ofText_cookies (hread : (Toml.read? content).bind Toml.unwrapTop? =
    some [("parameters", .table [("cookies", .text "a")]),
      ("http", .table [("cookies", .text "b")])]) :
    ofText content = .error [⟨.unknownField "cookies" HttpSettings.schema.keys,
      ["http", "cookies"], some .inline, true⟩] := by
  rw [ofText, Layer.ofText, hread]
  cbv

theorem ofText_atTop : ofText atTop =
    .error [⟨.unknownField "colour" keys, ["colour"], some .inline, true⟩] := by
  have hread : (Toml.read? atTop).bind Toml.unwrapTop? = some [("colour", .text "c")] := by cbv
  rw [ofText, Layer.ofText, hread]
  cbv

theorem writtenUnder_twoSections : WrittenUnder twoSections "http" "cookies"
    ⟨"[http]\ncookies = 'b'\n".toList, .header [] "http", "cookies = 'b'\n".toList⟩
    ⟨"cookies = 'b'\n".toList, .entry [] "cookies" (.text "b"), []⟩ where
  entry := ⟨.text "b", rfl⟩
  nonempty := by decide
  bare := List.all_eq_true.1 (by decide)
  separated := ⟨' ', "= 'b'\n".toList, rfl, .inl rfl⟩
  lines := by
    refine ⟨[⟨twoSections.toList, .header [] "parameters",
      "cookies = 'a'\n\n[http]\ncookies = 'b'\n".toList⟩,
      ⟨"cookies = 'a'\n\n[http]\ncookies = 'b'\n".toList, .entry [] "cookies" (.text "a"),
        "\n[http]\ncookies = 'b'\n".toList⟩], [], [], ?_, fun _ hp => nomatch hp⟩
    cbv
  header := rfl
  first := ⟨"[parameters]\ncookies = 'a'\n\n".toList, "\ncookies = 'b'\n".toList,
    Text.cut?_eq_some_iff.1 (by cbv), rfl⟩

theorem writtenAtTop_atTop : WrittenAtTop atTop "colour"
    ⟨"colour = 'c'\n".toList, .entry [] "colour" (.text "c"), []⟩ where
  entry := ⟨.text "c", rfl⟩
  nonempty := by decide
  bare := List.all_eq_true.1 (by decide)
  separated := ⟨' ', "= 'c'\n".toList, rfl, .inl rfl⟩
  lines := ⟨[], [], by cbv, fun _ hp => nomatch hp⟩
  behind := ⟨"# no ".toList, "\ncolour = 'c'\n".toList, Text.cut?_eq_some_iff.1 (by cbv),
    ['\n'], [], rfl, .inr rfl, fun _ hc => nomatch hc⟩

/-- A key of a section is shown in the section, though another section has it before, and a key at
the top is shown at the top. -/
theorem shown_in_place :
    (∃ span, ofCheckedText twoSections =
        .error [.unknownKey "cookies" HttpSettings.schema.keys (some span)] ∧
      headerAt? twoSections span.offset = some (.header [] "http")) ∧
    ∃ span, ofCheckedText atTop = .error [.unknownKey "colour" keys (some span)] ∧
      headerAt? atTop span.offset = none := by
  constructor
  · have hoffset : KeyPosition.offset? twoSections ["http", "cookies"] "cookies" = some 35 := by
      cbv
    have hreport := ofCheckedText_of_unknownField (ofText_cookies (by cbv)) hoffset
    obtain ⟨l, head, path, -, hunknown, -, hheader, -⟩ :=
      ofCheckedText_unknownKey hreport List.mem_cons_self
    obtain rfl : head = "http" := by
      cases hunknown with
      | top hmem hkey hvalid => exact absurd hvalid (by decide)
      | field name s hs hmem hkey hvalid =>
        unfold schema? at hs
        split at hs <;> cases hs
        · exact absurd hvalid (by decide)
        · rfl
        · exact absurd hvalid (by decide)
        · exact absurd hvalid (by decide)
    exact ⟨_, hreport, hheader rfl _ _ writtenUnder_twoSections⟩
  · have hoffset : KeyPosition.offset? atTop ["colour"] "colour" = some 14 := by cbv
    have hreport := ofCheckedText_of_unknownField ofText_atTop hoffset
    obtain ⟨l, head, path, -, hunknown, -, -, hheader⟩ :=
      ofCheckedText_unknownKey hreport List.mem_cons_self
    obtain rfl : head = "colour" := by
      cases hunknown with
      | top => rfl
      | field name s hs hmem hkey hvalid =>
        unfold schema? at hs
        split at hs <;> cases hs <;> exact absurd hvalid (by decide)
    exact ⟨_, hreport, hheader rfl _ writtenAtTop_atTop⟩

/-- Below a comment with the header in it, the key of the other section is shown. -/
theorem shown_under_parameters : ∃ l span, Layer.ofText .inline commented = .ok l ∧
    l.Unknown "cookies" HttpSettings.schema.keys ["http", "cookies"] ∧
    ofCheckedText commented =
      .error [.unknownKey "cookies" HttpSettings.schema.keys (some span)] ∧
    headerAt? commented span.offset = some (.header [] "parameters") := by
  have hread : (Toml.read? commented).bind Toml.unwrapTop? =
      some [("parameters", .table [("cookies", .text "a")]),
        ("http", .table [("cookies", .text "b")])] := by cbv
  refine ⟨Setting.ofEntries .inline [("parameters", .table [("cookies", .text "a")]),
    ("http", .table [("cookies", .text "b")])], ⟨"<inline>", 32, 7⟩, ?_, ?_,
    ofCheckedText_of_unknownField (ofText_cookies hread) (by cbv), by cbv⟩
  · rw [Layer.ofText, hread]
  · exact .field "http" HttpSettings.schema rfl (List.mem_singleton_self "cookies") (by decide) rfl

end Settings

end StreamSource
