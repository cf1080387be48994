import StreamSource.Proofs.NameMap
import StreamSource.Proofs.Text.ByteOrder
import StreamSource.Proofs.Text.FirstCut
import StreamSource.Settings.Loading

/-! What the settings are checked for. There are ten rules, each about some fields only. Settings
that keep all of them pass; for any others every violation is reported and nothing else, in the
order of the rules and, for the names of parameters, in the order of their bytes. What is reported
under a rule depends on nothing but what the rule is about. -/

namespace StreamSource

/-- A name that is not empty and has no blank in it. -/
def IsName (name : String) : Prop :=
  name.toList ≠ [] ∧ ∀ c ∈ name.toList, Text.isBlank c = false

theorem Settings.isParameterName_iff {name : String} :
    isParameterName name = true ↔ IsName name := by
  simp [isParameterName, IsName]

/-! ### Rules -/

inductive Rule
  | logLevel
  | openConnectionTimeout
  | totalReopenConnectionTimeout
  | httpVersion
  | credentials
  | baseUrl
  | manifest
  | manifestAlone
  | parameterNames
  | disabledNames
  deriving DecidableEq

namespace Rule

/-- The rules in their order. -/
def all : List Rule :=
  [logLevel, openConnectionTimeout, totalReopenConnectionTimeout, httpVersion, credentials, baseUrl,
    manifest, manifestAlone, parameterNames, disabledNames]

/-- How many rules stand before this one. -/
def place (r : Rule) : Nat := all.idxOf r

theorem mem_all (r : Rule) : r ∈ all := by cases r <;> decide

theorem pairwise_all : all.Pairwise fun r r' => r.place < r'.place := by decide

/-- Two settings that do not differ in what the rule is about. -/
def SameFor : Rule → Settings → Settings → Prop
  | logLevel, s, s' => s.logging.level = s'.logging.level
  | openConnectionTimeout, s, s' => s.http.openConnectionTimeout = s'.http.openConnectionTimeout
  | totalReopenConnectionTimeout, s, s' =>
    s.http.totalReopenConnectionTimeout = s'.http.totalReopenConnectionTimeout
  | httpVersion, s, s' => s.http.version = s'.http.version
  | credentials, s, s' => s.http.serverUserName.isSome = s'.http.serverUserName.isSome ∧
    s.http.serverPassword.isSome = s'.http.serverPassword.isSome
  | baseUrl, s, s' => s.mshs.baseUrl = s'.mshs.baseUrl
  | manifest, s, s' => s.mshs.manifest = s'.mshs.manifest
  | manifestAlone, s, s' => s.mshs.baseUrl.isSome = s'.mshs.baseUrl.isSome ∧
    s.mshs.manifest.isSome = s'.mshs.manifest.isSome
  | parameterNames, s, s' => s.parameters.names = s'.parameters.names
  | disabledNames, s, s' => s.plugins.disabled = s'.plugins.disabled

theorem SameFor.symm {r : Rule} {s s' : Settings} (h : r.SameFor s s') : r.SameFor s' s := by
  cases r with
  | credentials => exact ⟨h.1.symm, h.2.symm⟩
  | manifestAlone => exact ⟨h.1.symm, h.2.symm⟩
  | _ => exact Eq.symm h

end Rule

namespace Violation

/-- The rule that is violated. -/
def rule : Violation → Rule
  | logLevel _ => .logLevel
  | openConnectionTimeout => .openConnectionTimeout
  | totalReopenConnectionTimeout => .totalReopenConnectionTimeout
  | httpVersion _ => .httpVersion
  | credentials => .credentials
  | notAbsolute key _ => if key = "mshs.base_url" then .baseUrl else .manifest
  | manifestAlone => .manifestAlone
  | parameterName _ => .parameterNames
  | blankPluginName => .disabledNames

/-- The order of reports: that of the rules, and for the names of parameters that of the bytes. -/
def Precedes (v w : Violation) : Prop :=
  v.rule.place < w.rule.place ∨
    ∃ m n, v = parameterName m ∧ w = parameterName n ∧ Text.utf8 m < Text.utf8 n

theorem Precedes.asymm {v w : Violation} (h : v.Precedes w) : ¬ w.Precedes v := by
  rintro (hrule | ⟨n, m, rfl, rfl, hname⟩)
  · obtain hrule' | ⟨m, n, rfl, rfl, -⟩ := h
    · exact Nat.lt_asymm hrule hrule'
    · exact Nat.lt_irrefl _ hrule
  · obtain hrule' | ⟨m', n', heq, heq', hname'⟩ := h
    · exact Nat.lt_irrefl _ hrule'
    · cases heq
      cases heq'
      exact String.lt_asymm (Text.lt_iff_utf8_lt.2 hname) (Text.lt_iff_utf8_lt.2 hname')

end Violation

namespace Settings

variable {s s' : Settings} {v : Violation}

/-- Settings that keep every rule. -/
structure Valid (s : Settings) : Prop where
  logLevel : s.logging.level ∈ ["trace", "debug", "info", "warn", "error"]
  openConnectionTimeout : s.http.openConnectionTimeout ≠ 0
  totalReopenConnectionTimeout : s.http.totalReopenConnectionTimeout ≠ 0
  httpVersion : ∀ version, s.http.version = some version → version = "1.0" ∨ version = "1.1"
  credentials : s.http.serverUserName.isSome = s.http.serverPassword.isSome
  baseUrl : ∀ url, s.mshs.baseUrl = some url → Url.Absolute url
  manifest : ∀ url, s.mshs.manifest = some url → Url.Absolute url
  manifestAlone : s.mshs.manifest.isSome → s.mshs.baseUrl.isSome
  parameterNames : ∀ name ∈ s.parameters.names, IsName name
  disabledNames : ∀ name ∈ s.plugins.disabled, ∃ c ∈ name.toList, Text.isBlank c = false

/-- What there is to report about settings. -/
inductive Violates (s : Settings) : Violation → Prop
  | logLevel (h : s.logging.level ∉ ["trace", "debug", "info", "warn", "error"]) :
    Violates s (.logLevel s.logging.level)
  | openConnectionTimeout (h : s.http.openConnectionTimeout = 0) :
    Violates s .openConnectionTimeout
  | totalReopenConnectionTimeout (h : s.http.totalReopenConnectionTimeout = 0) :
    Violates s .totalReopenConnectionTimeout
  | httpVersion {version : String} (h : s.http.version = some version) (hold : version ≠ "1.0")
    (hnew : version ≠ "1.1") : Violates s (.httpVersion version)
  | credentials (h : s.http.serverUserName.isSome ≠ s.http.serverPassword.isSome) :
    Violates s .credentials
  | baseUrl {url : String} (h : s.mshs.baseUrl = some url) (hurl : ¬ Url.Absolute url) :
    Violates s (.notAbsolute "mshs.base_url" url)
  | manifest {url : String} (h : s.mshs.manifest = some url) (hurl : ¬ Url.Absolute url) :
    Violates s (.notAbsolute "mshs.manifest" url)
  | manifestAlone (h : s.mshs.manifest.isSome) (hbase : s.mshs.baseUrl.isSome = false) :
    Violates s .manifestAlone
  | parameterName {name : String} (h : name ∈ s.parameters.names) (hname : ¬ IsName name) :
    Violates s (.parameterName name)
  | blankPluginName {name : String} (h : name ∈ s.plugins.disabled)
    (hblank : ∀ c ∈ name.toList, Text.isBlank c = true) : Violates s .blankPluginName

theorem Valid.not_violates (h : s.Valid) : ¬ s.Violates v := by
  intro hv
  cases hv with
  | logLevel hlevel => exact hlevel h.logLevel
  | openConnectionTimeout hzero => exact h.openConnectionTimeout hzero
  | totalReopenConnectionTimeout hzero => exact h.totalReopenConnectionTimeout hzero
  | httpVersion hversion hold hnew => exact (h.httpVersion _ hversion).elim hold hnew
  | credentials hne => exact hne h.credentials
  | baseUrl hsome hurl => exact hurl (h.baseUrl _ hsome)
  | manifest hsome hurl => exact hurl (h.manifest _ hsome)
  | manifestAlone hsome hbase => exact absurd (h.manifestAlone hsome) (by simp [hbase])
  | parameterName hmem hname => exact hname (h.parameterNames _ hmem)
  | blankPluginName hmem hblank =>
    obtain ⟨c, hc, hgraphic⟩ := h.disabledNames _ hmem
    exact absurd (hblank c hc) (by simp [hgraphic])

theorem valid_of_forall_not_violates (h : ∀ v, ¬ s.Violates v) : s.Valid where
  logLevel := by
    by_contra hlevel
    exact h _ (.logLevel hlevel)
  openConnectionTimeout hzero := h _ (.openConnectionTimeout hzero)
  totalReopenConnectionTimeout hzero := h _ (.totalReopenConnectionTimeout hzero)
  httpVersion version hversion := by
    by_contra hneither
    obtain ⟨hold, hnew⟩ := not_or.1 hneither
    exact h _ (.httpVersion hversion hold hnew)
  credentials := by
    by_contra hne
    exact h _ (.credentials hne)
  baseUrl url hsome := by
    by_contra hurl
    exact h _ (.baseUrl hsome hurl)
  manifest url hsome := by
    by_contra hurl
    exact h _ (.manifest hsome hurl)
  manifestAlone hsome := by
    by_contra hbase
    exact h _ (.manifestAlone hsome (by simpa using hbase))
  parameterNames name hmem := by
    by_contra hname
    exact h _ (.parameterName hmem hname)
  disabledNames name hmem := by
    by_contra hnone
    refine h _ (.blankPluginName hmem fun c hc => ?_)
    by_contra hblank
    exact hnone ⟨c, hc, by simpa using hblank⟩

/-- What is reported under a rule depends on nothing but what the rule is about. -/
theorem Violates.congr (hsame : v.rule.SameFor s s') (h : s.Violates v) : s'.Violates v := by
  cases h with
  | logLevel hlevel =>
    have hsame : s.logging.level = s'.logging.level := hsame
    rw [hsame] at hlevel ⊢
    exact .logLevel hlevel
  | openConnectionTimeout hzero => exact .openConnectionTimeout (Eq.trans (Eq.symm hsame) hzero)
  | totalReopenConnectionTimeout hzero =>
    exact .totalReopenConnectionTimeout (Eq.trans (Eq.symm hsame) hzero)
  | httpVersion hversion hold hnew =>
    exact .httpVersion (Eq.trans (Eq.symm hsame) hversion) hold hnew
  | credentials hne => exact .credentials (hsame.1 ▸ hsame.2 ▸ hne)
  | baseUrl hsome hurl => exact .baseUrl (Eq.trans (Eq.symm hsame) hsome) hurl
  | manifest hsome hurl => exact .manifest (Eq.trans (Eq.symm hsame) hsome) hurl
  | manifestAlone hsome hbase => exact .manifestAlone (hsame.2 ▸ hsome) (hsame.1 ▸ hbase)
  | parameterName hmem hname =>
    have hsame : s.parameters.names = s'.parameters.names := hsame
    exact .parameterName (hsame ▸ hmem) hname
  | blankPluginName hmem hblank =>
    have hsame : s.plugins.disabled = s'.plugins.disabled := hsame
    exact .blankPluginName (hsame ▸ hmem) hblank

/-! ### Reports -/

/-- The violations of one rule. -/
def violationsOf (s : Settings) : Rule → List Violation
  | .logLevel => violationIf (s.logging.level ∉ logLevels) (.logLevel s.logging.level)
  | .openConnectionTimeout => violationIf (s.http.openConnectionTimeout = 0) .openConnectionTimeout
  | .totalReopenConnectionTimeout =>
    violationIf (s.http.totalReopenConnectionTimeout = 0) .totalReopenConnectionTimeout
  | .httpVersion => versionViolations s.http.version
  | .credentials =>
    violationIf (s.http.serverUserName.isSome ≠ s.http.serverPassword.isSome) .credentials
  | .baseUrl => urlViolations "mshs.base_url" s.mshs.baseUrl
  | .manifest => urlViolations "mshs.manifest" s.mshs.manifest
  | .manifestAlone =>
    violationIf (s.mshs.manifest.isSome ∧ s.mshs.baseUrl.isNone) .manifestAlone
  | .parameterNames => nameViolations s.parameters
  | .disabledNames =>
    violationIf (s.plugins.disabled.any fun n => Text.allBlank n.toList) .blankPluginName

theorem violations_eq_flatMap (s : Settings) : s.violations = Rule.all.flatMap s.violationsOf := by
  simp only [violations, Rule.all, List.flatMap_cons, List.flatMap_nil, List.append_nil,
    List.append_assoc, violationsOf]

theorem mem_violationIf {p : Prop} [Decidable p] {w : Violation} :
    v ∈ violationIf p w ↔ p ∧ v = w := by
  unfold violationIf
  by_cases hp : p <;> simp [hp]

theorem mem_versionViolations {version : Option String} :
    v ∈ versionViolations version ↔
      ∃ t, version = some t ∧ (t ≠ "1.0" ∧ t ≠ "1.1") ∧ v = .httpVersion t := by
  cases version with
  | none => simp [versionViolations]
  | some t => simp [versionViolations, mem_violationIf]

theorem mem_urlViolations {key : String} {url : Option String} :
    v ∈ urlViolations key url ↔
      ∃ t, url = some t ∧ ¬ Url.Absolute t ∧ v = .notAbsolute key t := by
  cases url with
  | none => simp [urlViolations]
  | some t => simp [urlViolations, mem_violationIf, ← Url.isAbsolute_iff]

theorem mem_nameViolations {ps : NameMap ParameterValue} :
    v ∈ nameViolations ps ↔ ∃ name ∈ ps.names, ¬ IsName name ∧ v = .parameterName name := by
  unfold nameViolations
  rw [List.mem_map]
  constructor
  · rintro ⟨name, hmem, rfl⟩
    obtain ⟨hmem, hname⟩ := List.mem_filter.1 hmem
    exact ⟨name, hmem, by simpa [← isParameterName_iff] using hname, rfl⟩
  · rintro ⟨name, hmem, hname, rfl⟩
    exact ⟨name, List.mem_filter.2 ⟨hmem, by simpa [← isParameterName_iff] using hname⟩, rfl⟩

theorem Violates.mem (h : s.Violates v) : v ∈ s.violationsOf v.rule := by
  cases h with
  | logLevel hlevel => exact mem_violationIf.2 ⟨hlevel, rfl⟩
  | openConnectionTimeout hzero => exact mem_violationIf.2 ⟨hzero, rfl⟩
  | totalReopenConnectionTimeout hzero => exact mem_violationIf.2 ⟨hzero, rfl⟩
  | httpVersion hversion hold hnew =>
    exact mem_versionViolations.2 ⟨_, hversion, ⟨hold, hnew⟩, rfl⟩
  | credentials hne => exact mem_violationIf.2 ⟨hne, rfl⟩
  | baseUrl hsome hurl => exact mem_urlViolations.2 ⟨_, hsome, hurl, rfl⟩
  | manifest hsome hurl => exact mem_urlViolations.2 ⟨_, hsome, hurl, rfl⟩
  | manifestAlone hsome hbase => exact mem_violationIf.2 ⟨⟨hsome, by simpa using hbase⟩, rfl⟩
  | parameterName hmem hname => exact mem_nameViolations.2 ⟨_, hmem, hname, rfl⟩
  | blankPluginName hmem hblank =>
    exact mem_violationIf.2 ⟨List.any_eq_true.2 ⟨_, hmem, List.all_eq_true.2 hblank⟩, rfl⟩

theorem violates_of_mem {r : Rule} (h : v ∈ s.violationsOf r) : s.Violates v ∧ v.rule = r := by
  cases r with
  | logLevel =>
    obtain ⟨hlevel, rfl⟩ := mem_violationIf.1 h
    exact ⟨.logLevel hlevel, rfl⟩
  | openConnectionTimeout =>
    obtain ⟨hzero, rfl⟩ := mem_violationIf.1 h
    exact ⟨.openConnectionTimeout hzero, rfl⟩
  | totalReopenConnectionTimeout =>
    obtain ⟨hzero, rfl⟩ := mem_violationIf.1 h
    exact ⟨.totalReopenConnectionTimeout hzero, rfl⟩
  | httpVersion =>
    obtain ⟨version, hversion, ⟨hold, hnew⟩, rfl⟩ := mem_versionViolations.1 h
    exact ⟨.httpVersion hversion hold hnew, rfl⟩
  | credentials =>
    obtain ⟨hne, rfl⟩ := mem_violationIf.1 h
    exact ⟨.credentials hne, rfl⟩
  | baseUrl =>
    obtain ⟨url, hsome, hurl, rfl⟩ := mem_urlViolations.1 h
    exact ⟨.baseUrl hsome hurl, rfl⟩
  | manifest =>
    obtain ⟨url, hsome, hurl, rfl⟩ := mem_urlViolations.1 h
    exact ⟨.manifest hsome hurl, rfl⟩
  | manifestAlone =>
    obtain ⟨⟨hsome, hbase⟩, rfl⟩ := mem_violationIf.1 h
    exact ⟨.manifestAlone hsome (by simpa using hbase), rfl⟩
  | parameterNames =>
    obtain ⟨name, hmem, hname, rfl⟩ := mem_nameViolations.1 h
    exact ⟨.parameterName hmem hname, rfl⟩
  | disabledNames =>
    obtain ⟨hany, rfl⟩ := mem_violationIf.1 h
    obtain ⟨name, hmem, hblank⟩ := List.any_eq_true.1 hany
    exact ⟨.blankPluginName hmem (List.all_eq_true.1 hblank), rfl⟩

theorem mem_violations_iff : v ∈ s.violations ↔ s.Violates v := by
  rw [violations_eq_flatMap, List.mem_flatMap]
  constructor
  · rintro ⟨r, -, hv⟩
    exact (violates_of_mem hv).1
  · intro hv
    exact ⟨v.rule, v.rule.mem_all, hv.mem⟩

theorem pairwise_violationIf {p : Prop} [Decidable p] {w : Violation} :
    (violationIf p w).Pairwise Violation.Precedes := by
  unfold violationIf
  split
  · exact List.pairwise_singleton _ w
  · exact .nil

theorem pairwise_violationsOf (s : Settings) (r : Rule) :
    (s.violationsOf r).Pairwise Violation.Precedes := by
  have hurl (key : String) (url : Option String) :
      (urlViolations key url).Pairwise Violation.Precedes := by
    cases url with
    | none => exact .nil
    | some t => exact pairwise_violationIf
  cases r with
  | httpVersion =>
    change (versionViolations s.http.version).Pairwise _
    cases s.http.version with
    | none => exact .nil
    | some t => exact pairwise_violationIf
  | baseUrl => exact hurl _ _
  | manifest => exact hurl _ _
  | parameterNames =>
    refine List.pairwise_map.2 ((s.parameters.pairwise_names.filter _).imp fun hlt => ?_)
    exact .inr ⟨_, _, rfl, rfl, Text.lt_iff_utf8_lt.1 hlt⟩
  | _ => exact pairwise_violationIf

theorem pairwise_violations (s : Settings) : s.violations.Pairwise Violation.Precedes := by
  rw [violations_eq_flatMap, List.pairwise_flatMap]
  refine ⟨fun r _ => s.pairwise_violationsOf r, Rule.pairwise_all.imp fun {r r'} hlt v hv w hw => ?_⟩
  -- of two different rules the violations stand as the rules do
  rw [← (violates_of_mem hv).2, ← (violates_of_mem hw).2] at hlt
  exact .inl hlt

/-- All violations, each of them once and in their order. -/
structure Collects (s : Settings) (vs : List Violation) : Prop where
  mem_iff : ∀ v, v ∈ vs ↔ s.Violates v
  pairwise : vs.Pairwise Violation.Precedes

theorem collects_violations (s : Settings) : s.Collects s.violations :=
  ⟨fun _ => mem_violations_iff, s.pairwise_violations⟩

theorem Collects.eq {vs ws : List Violation} (hvs : s.Collects vs) (hws : s.Collects ws) :
    vs = ws :=
  eq_of_pairwise_of_mem_iff (fun _ _ => Violation.Precedes.asymm) hvs.pairwise hws.pairwise
    fun v => (hvs.mem_iff v).trans (hws.mem_iff v).symm

theorem violations_eq_nil_iff : s.violations = [] ↔ s.Valid := by
  rw [List.eq_nil_iff_forall_not_mem]
  constructor
  · exact fun h => valid_of_forall_not_violates fun v hv => h v (mem_violations_iff.2 hv)
  · exact fun h v hv => h.not_violates (mem_violations_iff.1 hv)

theorem check_of_valid (h : s.Valid) : s.check = .ok s := by
  rw [check, violations_eq_nil_iff.2 h]

theorem check_of_not_valid (h : ¬ s.Valid) : s.check = .error (s.violations.map .violation) := by
  have hne : s.violations ≠ [] := fun hnil => h (violations_eq_nil_iff.1 hnil)
  unfold check
  split
  next hnil => exact absurd hnil hne
  next => rfl

theorem check_eq_ok_iff : s.check = .ok s ↔ s.Valid := by
  refine ⟨fun h => ?_, check_of_valid⟩
  by_contra hnot
  rw [check_of_not_valid hnot] at h
  cases h

theorem check_eq_error_iff {ds : List Diagnosis} :
    s.check = .error ds ↔ ¬ s.Valid ∧ ∃ vs, s.Collects vs ∧ ds = vs.map .violation := by
  constructor
  · intro h
    have hnot : ¬ s.Valid := fun hvalid => by
      rw [check_of_valid hvalid] at h
      cases h
    rw [check_of_not_valid hnot] at h
    cases h
    exact ⟨hnot, s.violations, s.collects_violations, rfl⟩
  · rintro ⟨hnot, vs, hvs, rfl⟩
    rw [check_of_not_valid hnot, hvs.eq s.collects_violations]

/-- Whether the check of settings reports a violation. -/
def Reports (s : Settings) (v : Violation) : Prop :=
  ∃ ds, s.check = .error ds ∧ .violation v ∈ ds

theorem reports_iff : s.Reports v ↔ s.Violates v := by
  constructor
  · rintro ⟨ds, hcheck, hmem⟩
    obtain ⟨-, vs, hvs, rfl⟩ := check_eq_error_iff.1 hcheck
    obtain ⟨w, hw, heq⟩ := List.mem_map.1 hmem
    cases heq
    exact (hvs.mem_iff v).1 hw
  · intro hv
    exact ⟨_, check_of_not_valid fun h => h.not_violates hv,
      List.mem_map_of_mem (mem_violations_iff.2 hv)⟩

/-- Settings pass the check if and only if they keep every rule. What is reported otherwise is all
the violations, each once and in their order, and a rule is not reported differently because of
anything that it is not about. -/
theorem check_collects_rule_by_rule (s : Settings) :
    (s.check = .ok s ↔ s.Valid) ∧
    (∀ ds, s.check = .error ds ↔ ¬ s.Valid ∧ ∃ vs, s.Collects vs ∧ ds = vs.map .violation) ∧
    ∀ s' v, v.rule.SameFor s s' → (s.Reports v ↔ s'.Reports v) := by
  refine ⟨check_eq_ok_iff, fun ds => check_eq_error_iff, fun s' v hsame => ?_⟩
  rw [reports_iff, reports_iff]
  exact ⟨.congr hsame, .congr hsame.symm⟩

/-- Settings with a fault of almost every kind. -/
def loud : Settings where
  logging := ⟨"loud"⟩
  http := { openConnectionTimeout := 0 }
  mshs := { manifest := some "manifest.ismc" }
  plugins := ⟨["http", " ", ""]⟩
  parameters := .ofList [("b c", .text "x"), ("ok", .integer 1), ("", .boolean true)]

/-- What is reported about them. -/
def loudViolations : List Violation :=
  [.logLevel "loud", .openConnectionTimeout, .notAbsolute "mshs.manifest" "manifest.ismc",
    .manifestAlone, .parameterName "", .parameterName "b c", .blankPluginName]

theorem check_of_loud :
    ¬ loud.Valid ∧ loud.check = .error (loudViolations.map .violation) ∧
    Rule.SameFor .logLevel loud { logging := ⟨"loud"⟩ } ∧
    (loud.Reports (.logLevel "loud") ↔
      Settings.Reports { logging := ⟨"loud"⟩ } (.logLevel "loud")) := by
  have hnot : ¬ loud.Valid := fun h => absurd h.logLevel (by decide)
  have hviolations : loud.violations = loudViolations := by decide
  have hsame : Rule.SameFor .logLevel loud { logging := ⟨"loud"⟩ } := rfl
  obtain ⟨-, herror, hapart⟩ := check_collects_rule_by_rule loud
  exact ⟨hnot, (herror _).2 ⟨hnot, _, hviolations ▸ loud.collects_violations, rfl⟩, hsame,
    hapart _ (.logLevel "loud") hsame⟩

end Settings

end StreamSource
