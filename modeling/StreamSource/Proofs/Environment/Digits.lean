import Mathlib.Data.List.TakeWhile
import StreamSource.Proofs.Environment.Merged
import StreamSource.Proofs.Environment.Naming
import StreamSource.Proofs.Text.Numeral

/-! Digits from the environment. They are read as a number where 64 bits hold it, and a text field
has the number in its written form: digits stay as they are unless a zero stands before others and
the number is one of 64 bits. -/

namespace StreamSource

namespace Environment

open Text

variable {ds : List Char} {n : Nat}

theorem ne_of_isDigit {c d : Char} (hc : c.isDigit = true) (hd : d.isDigit = false) : c ≠ d := by
  rintro rfl
  rw [hc] at hd
  cases hd

/-- Digits alone are a plain word. -/
theorem value?_digits (fuel : Nat) (hne : ds ≠ []) (hds : ∀ c ∈ ds, c.isDigit = true) :
    value? (fuel + 1) ds = some (scalar (plain ds), []) := by
  have hseparator {c : Char} (hc : c.isDigit = true) : (!isSeparator c) = true := by
    simp only [isSeparator, Bool.not_eq_true', Bool.or_eq_false_iff, decide_eq_false_iff_not]
    exact ⟨⟨⟨⟨ne_of_isDigit hc rfl, ne_of_isDigit hc rfl⟩, ne_of_isDigit hc rfl⟩,
      ne_of_isDigit hc rfl⟩, ne_of_isDigit hc rfl⟩
  have htake : ds.takeWhile (!isSeparator ·) = ds :=
    List.takeWhile_eq_self_iff.2 fun c hc => hseparator (hds c hc)
  have hdrop : ds.dropWhile (!isSeparator ·) = [] :=
    List.dropWhile_eq_nil_iff.2 fun c hc => hseparator (hds c hc)
  obtain ⟨c, r, rfl⟩ := List.exists_cons_of_ne_nil hne
  have hc : c.isDigit = true := hds c List.mem_cons_self
  have hspace : skipSpace (c :: r) = c :: r := by
    have hno : isSpace c = false := by
      simp only [isSpace, Bool.or_eq_false_iff, decide_eq_false_iff_not]
      exact ⟨⟨⟨⟨ne_of_isDigit hc rfl, ne_of_isDigit hc rfl⟩, ne_of_isDigit hc rfl⟩,
        ne_of_isDigit hc rfl⟩, ne_of_isDigit hc rfl⟩
    rw [skipSpace, List.dropWhile_cons_of_neg (by simp [hno])]
  have htrue : "true".toList.isPrefixOf (c :: r) = false := by
    have hne : 't' ≠ c := (ne_of_isDigit hc rfl).symm
    change ('t' == c && _) = false
    rw [beq_false_of_ne hne, Bool.false_and]
  have hfalse : "false".toList.isPrefixOf (c :: r) = false := by
    have hne : 'f' ≠ c := (ne_of_isDigit hc rfl).symm
    change ('f' == c && _) = false
    rw [beq_false_of_ne hne, Bool.false_and]
  rw [value?, hspace]
  split
  next heq => exact absurd (List.cons.inj heq).1 (ne_of_isDigit hc rfl)
  next heq => exact absurd (List.cons.inj heq).1 (ne_of_isDigit hc rfl)
  next heq => exact absurd (List.cons.inj heq).1 (ne_of_isDigit hc rfl)
  next heq => exact absurd (List.cons.inj heq).1 (ne_of_isDigit hc rfl)
  next heq => exact absurd (List.cons.inj heq).1 (ne_of_isDigit hc rfl)
  next =>
    rw [if_neg (Bool.eq_false_iff.1 htrue), if_neg (Bool.eq_false_iff.1 hfalse), htake, hdrop]

/-- A number that 64 bits hold is read from digits, and a greater one is not. -/
theorem plain_digits (hne : ds ≠ []) (hds : ∀ c ∈ ds, c.isDigit = true)
    (hn : natural? ds = some n) :
    plain ds = if n < Nat.pow 2 64 then .unsigned n else .text (String.ofList ds) := by
  have htrim : trim ds = ds :=
    trim_eq_self fun c hc => isBlank_of_word (.inl (by simp [Char.isAlphanum, hds c hc]))
  have hpoint : ds.contains '.' = false := by
    rw [List.contains_eq_mem, decide_eq_false_iff_not]
    exact fun hmem => ne_of_isDigit (hds _ hmem) (by decide) rfl
  have hhead {c : Char} (hc : c.isDigit = false) : ds.head? ≠ some c := by
    intro h
    exact ne_of_isDigit (hds c (List.mem_of_mem_head? h)) hc rfl
  have hunsigned : unsigned? 64 ds = if n < Nat.pow 2 64 then some n else none := by
    rw [unsigned?, if_neg (hhead rfl), hn, Option.filter_some]
    simp only [decide_eq_true_eq]
  have hinteger : integer? ds = some (n : Int) := by
    unfold integer?
    split
    next => exact absurd rfl (hhead (c := '+') rfl)
    next => exact absurd rfl (hhead (c := '-') rfl)
    next =>
      rw [hn]
      rfl
  rw [plain, htrim, hpoint]
  simp only [Bool.false_eq_true, if_false]
  rw [hunsigned]
  by_cases hlt : n < Nat.pow 2 64
  · rw [if_pos hlt, if_pos hlt]
  · have hint64 : int64? ds = none := by
      have hpow : Nat.pow 2 64 = 18446744073709551616 := rfl
      refine int64?_eq_none_iff.2 ?_
      rintro ⟨m, hm, -, hmax⟩
      have heq : m = n := hm.unique (integer?_eq_some_iff.1 hinteger)
      omega
    rw [if_neg hlt, if_neg hlt, hint64]

/-- What a variable makes of digits. -/
theorem settingOf_digits {value : String} (hne : value.toList ≠ [])
    (hdigits : ∀ c ∈ value.toList, c.isDigit = true) (hn : natural? value.toList = some n) :
    settingOf value = scalar (if n < Nat.pow 2 64 then .unsigned n else .text value) := by
  rw [settingOf, value?_digits _ hne hdigits]
  change scalar (plain value.toList) = _
  rw [plain_digits hne hdigits hn, String.ofList_toList]

end Environment

/-- The text in a field for an optional text. -/
def FieldKind.optional? : (k : FieldKind) → k.Value → Option String
  | .looseText, t => t
  | .text, _ | .boolean, _ | .word, _ | .texts, _ => none

theorem FieldKind.optional?_getD {k : FieldKind} (hk : k = .looseText) {v : Setting} {t : String}
    (h : v.looseText = .ok t) (d : k.Value) : k.optional? ((k.read? v).getD d) = some t := by
  subst hk
  rw [read?, h]
  rfl

theorem FieldKind.isSome_read? {k : FieldKind} (hk : k = .looseText) {v : Setting} {t : String}
    (h : v.looseText = .ok t) : (k.read? v).isSome = true := by
  subst hk
  rw [read?, h]
  rfl

namespace Environment

theorem leaf?_leafLayer (place q : String × String) (v : Setting) :
    (leafLayer place v).leaf? q.1 q.2 = if place = q then some v else none := by
  unfold leafLayer Layer.leaf? Layer.entriesIn
  rw [Entry.get?_cons]
  by_cases hname : place.1 = q.1
  · rw [if_pos hname]
    dsimp only
    rw [Entry.get?_cons]
    by_cases hkey : place.2 = q.2
    · rw [if_pos hkey, if_pos (Prod.ext hname hkey)]
    · rw [if_neg hkey, if_neg fun h => hkey (congrArg Prod.snd h)]
      rfl
  · rw [if_neg hname, if_neg fun h => hname (congrArg Prod.fst h)]
    rfl

/-- One leaf that its field takes makes a layer that can be read. -/
theorem readable_leafLayer {f : Field} {v : Setting} (h : (f.kind.read? v).isSome = true) :
    (leafLayer f.place v).Readable where
  ordered := by
    refine ⟨List.pairwise_singleton _ _, fun e he => ?_⟩
    rcases List.mem_singleton.1 he with rfl
    intro o es heq
    cases heq
    exact List.pairwise_singleton _ _
  tabular e he _ := by
    rcases List.mem_singleton.1 he with rfl
    exact ⟨_, _, rfl⟩
  valid := by
    refine ⟨fun e he => ?_, fun name key w hw => ?_⟩
    · rcases List.mem_singleton.1 he with rfl
      exact Settings.place_fst_mem_keys f
    · rw [leaf?_leafLayer f.place (name, key), Option.ite_none_right_eq_some] at hw
      obtain ⟨hplace, hv⟩ := hw
      cases hv
      exact .field f hplace h

end Environment

namespace Surroundings

variable {s : Surroundings}

theorem fileLayers_of_no_files (h : s.files = []) : s.fileLayers = [.ok [], .ok [], .ok []] := by
  have habsent (path? : Option Path) : s.fileLayer path? = .ok [] := by
    have hcontent (p : Path) : s.content? p = none := by
      rw [content?, h]
      rfl
    rw [fileLayer]
    cases path? with
    | none => rfl
    | some p =>
      rw [Option.bind_some, hcontent]
      rfl
  rw [fileLayers, habsent, habsent, habsent]

/-- Without files, a variable alone gives its field what the field reads of it, and the rest the
defaults. -/
theorem exists_settings_of_variable (hfiles : s.files = []) {f : Field} {name value : String}
    (hname : Environment.Names name f.place) (henvironment : s.environment = [(name, value)])
    (hread : (f.kind.read? (Environment.settingOf value)).isSome = true) :
    ∃ settings, Settings.ofLayers s.layers = .ok settings ∧
      f.get settings = (f.kind.read? (Environment.settingOf value)).getD (f.get {}) := by
  have hlayer : Environment.layer s.environment =
      Environment.leafLayer f.place (Environment.settingOf value) := by
    have hleaf := Environment.readable_leafLayer hread
    rw [henvironment, Environment.layer, List.map_singleton, hname.layerOf_eq,
      Layer.stack_singleton hleaf.ordered]
  have hreadable : ∀ l ∈ ([[], [], [], Environment.layer s.environment] : List Layer),
      l.Readable := by
    intro l hl
    simp only [List.mem_cons, List.not_mem_nil, or_false] at hl
    rcases hl with rfl | rfl | rfl | rfl
    · exact Layer.Readable.nil
    · exact Layer.Readable.nil
    · exact Layer.Readable.nil
    · exact hlayer ▸ Environment.readable_leafLayer hread
  refine ⟨Settings.inSections (Layer.stack [[], [], [], Environment.layer s.environment]), ?_, ?_⟩
  · rw [ofLayers_layers, Environment.load, fileLayers_of_no_files hfiles]
    exact Settings.ofLayers_of_readable hreadable
  · rw [Settings.get_inSections, Field.leaf?, (Layer.readable_stack hreadable).2, hlayer]
    simp [Environment.leaf?_leafLayer f.place f.place]

/-- Digits in a variable for an optional text, with no files and no other variable: the field has
the number's written form where 64 bits hold the number, and the digits otherwise. So it has the
digits themselves unless a zero stands before others and 64 bits hold the number. -/
theorem text_of_digits (s : Surroundings) (hfiles : s.files = []) (f : Field)
    (hf : f.kind = .looseText) (name value : String) (hname : Environment.Names name f.place)
    (henvironment : s.environment = [(name, value)]) (hne : value ≠ "")
    (hdigits : ∀ c ∈ value.toList, c.isDigit = true) :
    ∃ settings n, Settings.ofLayers s.layers = .ok settings ∧
      Text.natural? value.toList = some n ∧
      f.kind.optional? (f.get settings) =
        some (if n < Nat.pow 2 64 then Text.showNat n else value) ∧
      (f.kind.optional? (f.get settings) = some value ↔
        (value.toList.head? = some '0' → value = "0" ∨ Nat.pow 2 64 ≤ n)) := by
  have hlist : value.toList ≠ [] := fun h => hne (String.toList_inj.1 h)
  obtain ⟨n, hn⟩ : ∃ n, Text.natural? value.toList = some n :=
    ⟨_, Text.natural?_of_isDigit hlist hdigits⟩
  have hloose : (Environment.settingOf value).looseText =
      .ok (if n < Nat.pow 2 64 then Text.showNat n else value) := by
    rw [Environment.settingOf_digits hlist hdigits hn]
    by_cases hlt : n < Nat.pow 2 64
    · rw [if_pos hlt, if_pos hlt]
      rfl
    · rw [if_neg hlt, if_neg hlt]
      rfl
  obtain ⟨settings, hload, hget⟩ := exists_settings_of_variable hfiles hname henvironment
    (FieldKind.isSome_read? hf hloose)
  have htext : f.kind.optional? (f.get settings) =
      some (if n < Nat.pow 2 64 then Text.showNat n else value) := by
    rw [hget]
    exact FieldKind.optional?_getD hf hloose _
  refine ⟨settings, n, hload, hn, htext, ?_⟩
  rw [htext, Option.some.injEq]
  by_cases hlt : n < Nat.pow 2 64
  · rw [if_pos hlt, Text.showNat_eq_iff hlist hdigits hn]
    refine imp_congr_right fun _ => ?_
    exact (or_iff_left (Nat.not_le.2 hlt)).symm
  · rw [if_neg hlt]
    exact ⟨fun _ _ => .inr (Nat.not_lt.1 hlt), fun _ => rfl⟩

/-! ### A cookie of digits -/

/-- No files and a variable for the cookie. -/
def cookieAlone (value : String) : Surroundings where
  files := []
  workingDirectory := ⟨["work"]⟩
  userDirectory := none
  environment := [("URLSPLITTER_HTTP_COOKIE", value)]

/-- A cookie without zeros in front is kept. -/
theorem cookie_kept : ∃ settings, Settings.ofLayers (cookieAlone "12345").layers = .ok settings ∧
    settings.http.cookie = some "12345" := by
  obtain ⟨settings, n, hload, -, -, hkept⟩ := text_of_digits (cookieAlone "12345") rfl
    .cookie rfl _ "12345" Environment.names_cookie rfl (by decide) (List.all_eq_true.1 rfl)
  exact ⟨settings, hload, hkept.2 fun hzero => absurd hzero (by decide)⟩

/-- A cookie of digits loses the zeros in front. -/
theorem cookie_zeros_lost : (∀ c ∈ "007".toList, c.isDigit = true) ∧
    ∃ settings, Settings.ofLayers (cookieAlone "007").layers = .ok settings ∧
      settings.http.cookie = some "7" := by
  have hlt : 7 < Nat.pow 2 64 := by
    have hpow : Nat.pow 2 64 = 18446744073709551616 := rfl
    omega
  have hsetting : Environment.settingOf "007" = Environment.scalar (.unsigned 7) := by
    have hnatural : Text.natural? "007".toList = some 7 := rfl
    rw [Environment.settingOf_digits (by decide) (List.all_eq_true.1 rfl) hnatural, if_pos hlt]
  have hread : FieldKind.looseText.read? (Environment.settingOf "007") = some (some "7") := by
    rw [hsetting]
    rfl
  obtain ⟨settings, hload, hget⟩ := exists_settings_of_variable (s := cookieAlone "007")
    (f := .cookie) rfl Environment.names_cookie rfl (Option.isSome_of_mem hread)
  refine ⟨List.all_eq_true.1 rfl, settings, hload, ?_⟩
  change settings.http.cookie = _ at hget
  rw [hget]
  exact congrArg (·.getD none) hread

end Surroundings

end StreamSource
