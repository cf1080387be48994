import StreamSource.Proofs.Environment.Merged
import StreamSource.Proofs.Environment.Naming

/-! Variables named after sections and fields act independently. Each has a leaf of its own, so
the order in which they come does not show, and each decides its own leaf and no other. A section
that the files do not have as a table is the exception: one variable replaces it as a whole. -/

namespace StreamSource

namespace Setting

theorem overlayEntries_singleton (lower : Layer) (name : String) (v : Setting) :
    overlayEntries lower [(name, v)] =
      Entry.insert lower name (overlay? (Entry.get? lower name) v) := by
  rw [overlayEntries_cons, overlayEntries]

theorem overlayEntries_singleton_comm {a b : String} (hne : a ≠ b) (lower : Layer)
    (v w : Setting) : overlayEntries (overlayEntries lower [(a, v)]) [(b, w)] =
      overlayEntries (overlayEntries lower [(b, w)]) [(a, v)] := by
  simp only [overlayEntries_singleton, Entry.get?_insert, if_neg hne, if_neg hne.symm]
  exact Entry.insert_comm hne lower _ _

end Setting

namespace Environment

open Setting (overlay? overlayEntries)

/-! ### One leaf over a layer -/

section LeafLayer

variable (lower : Layer) (place place' : String × String) (v w : Setting)

theorem overlayEntries_leafLayer : overlayEntries lower (leafLayer place v) =
    Entry.insert lower place.1
      (.table .environment (overlayEntries (lower.entriesIn place.1) [(place.2, v)])) := by
  rw [leafLayer, Setting.overlayEntries_singleton,
    Layer.overlay?_table _ _ _ (List.pairwise_singleton _ _)]

theorem entriesIn_overlay_leafLayer (name : String) :
    (overlayEntries lower (leafLayer place v)).entriesIn name =
      if place.1 = name then overlayEntries (lower.entriesIn name) [(place.2, v)]
      else lower.entriesIn name := by
  rw [overlayEntries_leafLayer]
  by_cases hname : place.1 = name
  · rw [if_pos hname, ← hname]
    exact Layer.entriesIn_of_get? (by rw [Entry.get?_insert, if_pos rfl])
  · rw [if_neg hname]
    unfold Layer.entriesIn
    rw [Entry.get?_insert, if_neg hname]

theorem leaf?_overlay_leafLayer (q : String × String) :
    (overlayEntries lower (leafLayer place v)).leaf? q.1 q.2 =
      if place = q then some (overlay? (lower.leaf? q.1 q.2) v) else lower.leaf? q.1 q.2 := by
  rw [Layer.leaf?, entriesIn_overlay_leafLayer]
  by_cases hname : place.1 = q.1
  · rw [if_pos hname, Setting.overlayEntries_singleton, Entry.get?_insert]
    by_cases hkey : place.2 = q.2
    · rw [if_pos hkey, if_pos (Prod.ext hname hkey), hkey]
      rfl
    · rw [if_neg hkey, if_neg fun h => hkey (congrArg Prod.snd h)]
      rfl
  · rw [if_neg hname, if_neg fun h => hname (congrArg Prod.fst h)]
    rfl

/-- Different leaves may be laid over a layer in either order. -/
theorem overlayEntries_leafLayer_comm (hne : place ≠ place') :
    overlayEntries (overlayEntries lower (leafLayer place v)) (leafLayer place' w) =
      overlayEntries (overlayEntries lower (leafLayer place' w)) (leafLayer place v) := by
  have htwice (p q : String × String) (x y : Setting) :
      overlayEntries (overlayEntries lower (leafLayer p x)) (leafLayer q y) =
        Entry.insert
          (Entry.insert lower p.1
            (.table .environment (overlayEntries (lower.entriesIn p.1) [(p.2, x)])))
          q.1 (.table .environment (overlayEntries (if p.1 = q.1 then
            overlayEntries (lower.entriesIn q.1) [(p.2, x)] else lower.entriesIn q.1)
              [(q.2, y)])) := by
    rw [overlayEntries_leafLayer (overlayEntries lower (leafLayer p x)) q y,
      entriesIn_overlay_leafLayer, overlayEntries_leafLayer]
  rw [htwice, htwice]
  by_cases hname : place.1 = place'.1
  · have hkey : place.2 ≠ place'.2 := fun hkey => hne (Prod.ext hname hkey)
    rw [if_pos hname, if_pos hname.symm, hname, Entry.insert_insert_self,
      Entry.insert_insert_self, Setting.overlayEntries_singleton_comm hkey]
  · rw [if_neg hname, if_neg (Ne.symm hname), Entry.insert_comm hname]

end LeafLayer

/-! ### The layer of some variables -/

/-- Variables that are named after sections and fields, no two of them alike but for letter
case. -/
structure Named (vars : List (String × String)) : Prop where
  names : ∀ v ∈ vars, ∃ place, Names v.1 place
  distinct : (vars.map fun v => v.1.toList.map Char.toLower).Nodup

namespace Named

variable {vars vars' before after : List (String × String)} {v : String × String}
  {place : String × String}

theorem sublist (h : Named vars) (hsub : vars'.Sublist vars) : Named vars' where
  names v hv := h.names v (hsub.mem hv)
  distinct := h.distinct.sublist (hsub.map _)

theorem of_concat (h : Named (vars ++ [v])) : Named vars :=
  h.sublist (List.sublist_append_left vars [v])

/-- A variable among others is the only one named after its leaf. -/
theorem not_names_of_mem (h : Named (before ++ v :: after)) (hv : Names v.1 place)
    {w : String × String} (hw : w ∈ before ++ after) : ¬ Names w.1 place := by
  intro hplace
  have hnodup := h.distinct
  rw [List.map_append, List.map_cons] at hnodup
  have hnotMem := (List.nodup_middle.1 hnodup).notMem
  rw [← List.map_append] at hnotMem
  exact hnotMem (List.mem_map.2 ⟨w, hw, hplace.small_eq hv⟩)

/-- The order of the variables does not show. -/
theorem layer_perm (h : Named vars) (hperm : vars'.Perm vars) : layer vars' = layer vars := by
  unfold layer Layer.stack
  rw [List.foldl_map, List.foldl_map]
  refine (hperm.symm.foldl_eq' (fun v hv w hw l => ?_) []).symm
  obtain ⟨p, hp⟩ := h.names v hv
  obtain ⟨q, hq⟩ := h.names w hw
  by_cases hpq : p = q
  · subst hpq
    rw [List.inj_on_of_nodup_map h.distinct hv hw (hp.small_eq hq)]
  · rw [hp.layerOf_eq, hq.layerOf_eq, overlayEntries_leafLayer_comm l p q _ _ hpq]

theorem layer_middle (h : Named (before ++ v :: after)) (hv : Names v.1 place) :
    layer (before ++ v :: after) =
      overlayEntries (layer (before ++ after)) (leafLayer place (settingOf v.2)) := by
  have hperm : (before ++ after ++ [v]).Perm (before ++ v :: after) := by
    rw [List.append_assoc]
    have hswap : (after ++ [v]).Perm (v :: after) := List.perm_append_comm
    exact hswap.append_left before
  rw [← h.layer_perm hperm, layer_concat, hv.layerOf_eq]

theorem allTables_layer (h : Named vars) : (layer vars).AllTables := by
  induction vars using List.reverseRecOn with
  | nil => exact fun _ he => nomatch he
  | append_singleton vars v ih =>
    obtain ⟨p, hp⟩ := h.names v (List.mem_append_right vars (List.mem_singleton.2 rfl))
    rw [layer_concat, hp.layerOf_eq, overlayEntries_leafLayer]
    intro e he
    rcases Entry.mem_insert he with rfl | he
    · exact ⟨_, _, rfl⟩
    · exact ih h.of_concat e he

/-- No variable is named after a leaf that is not there. -/
theorem leaf?_layer_eq_none (h : Named vars) (hnone : ∀ w ∈ vars, ¬ Names w.1 place) :
    (layer vars).leaf? place.1 place.2 = none := by
  induction vars using List.reverseRecOn with
  | nil => rfl
  | append_singleton vars v ih =>
    have hmem : v ∈ vars ++ [v] := List.mem_append_right vars (List.mem_singleton.2 rfl)
    obtain ⟨p, hp⟩ := h.names v hmem
    have hne : p ≠ place := fun heq => hnone v hmem (heq ▸ hp)
    rw [layer_concat, hp.layerOf_eq, leaf?_overlay_leafLayer, if_neg hne]
    exact ih h.of_concat fun w hw => hnone w (List.mem_append_left [v] hw)

end Named

/-! ### Variables over files -/

variable {files : List (Except LoadFault Layer)} {vars before after : List (String × String)}
  {v : String × String} {place : String × String}

namespace Named

theorem leaf?_merged (h : Named vars) (q : String × String) :
    (merged files vars).leaf? q.1 q.2 =
      (((layer vars).leaf? q.1 q.2).map (overlay? ((below files).leaf? q.1 q.2))).or
        ((below files).leaf? q.1 q.2) :=
  Layer.leaf?_overlay (below files) (ordered_layer vars) (h.allTables_layer.tableAt q.1) q.2

theorem leaf?_merged_own (h : Named (before ++ v :: after)) (hv : Names v.1 place) :
    (merged files (before ++ v :: after)).leaf? place.1 place.2 =
      some (overlay? ((below files).leaf? place.1 place.2) (settingOf v.2)) := by
  have hrest : Named (before ++ after) :=
    h.sublist (List.Sublist.append_left (List.sublist_cons_self v after) before)
  have hnone := hrest.leaf?_layer_eq_none fun w hw => h.not_names_of_mem hv hw
  rw [h.leaf?_merged, h.layer_middle hv, leaf?_overlay_leafLayer, if_pos rfl, hnone]
  rfl

theorem leaf?_merged_other (h : Named (before ++ v :: after)) (hv : Names v.1 place)
    {q : String × String} (hq : q ≠ place) :
    (merged files (before ++ v :: after)).leaf? q.1 q.2 =
      (merged files (before ++ after)).leaf? q.1 q.2 := by
  have hrest : Named (before ++ after) :=
    h.sublist (List.Sublist.append_left (List.sublist_cons_self v after) before)
  rw [h.leaf?_merged, hrest.leaf?_merged, h.layer_middle hv, leaf?_overlay_leafLayer,
    if_neg hq.symm]

theorem get?_merged_other (h : Named (before ++ v :: after)) (hv : Names v.1 place)
    {name : String} (hname : name ≠ place.1) :
    Entry.get? (merged files (before ++ v :: after)) name =
      Entry.get? (merged files (before ++ after)) name := by
  rw [get?_merged, get?_merged, h.layer_middle hv, overlayEntries_leafLayer, Entry.get?_insert,
    if_neg hname.symm]

end Named

/-- What one variable does beside others: it decides the leaf that it is named after, and no
other. A section that is no table without it gives way to a table. -/
structure DecidesLeaf (files : List (Except LoadFault Layer)) (vars rest : List (String × String))
    (v : String × String) (place : String × String) : Prop where
  own : (merged files vars).leaf? place.1 place.2 =
    some (overlay? ((below files).leaf? place.1 place.2) (settingOf v.2))
  others : ∀ q, q ≠ place →
    (merged files vars).leaf? q.1 q.2 = (merged files rest).leaf? q.1 q.2
  declared : ∀ s, load files vars = .ok s →
    ∃ f : Field, f.place = place ∧ f.kind.read? (settingOf v.2) = some (f.get s)
  kept : ∀ s s', load files vars = .ok s → load files rest = .ok s' →
    s.parameters = s'.parameters ∧ ∀ f : Field, f.place ≠ place →
      (f.place.1 = place.1 → (merged files rest).TableAt place.1) → f.get s = f.get s'
  replaced : ∀ s, load files vars = .ok s → ¬ (merged files rest).TableAt place.1 →
    ∀ f : Field, f.place ≠ place → f.place.1 = place.1 → f.get s = f.get {}

theorem Named.decidesLeaf (h : Named (before ++ v :: after)) (hv : Names v.1 place) :
    DecidesLeaf files (before ++ v :: after) (before ++ after) v place := by
  have hown : (merged files (before ++ v :: after)).leaf? place.1 place.2 = _ :=
    h.leaf?_merged_own hv
  have htable : (merged files (before ++ v :: after)).TableAt place.1 := Layer.tableAt_of_leaf? hown
  have hother {f : Field} (hf : f.place ≠ place) :
      f.leaf? (merged files (before ++ v :: after)) = f.leaf? (merged files (before ++ after)) :=
    h.leaf?_merged_other hv hf
  refine ⟨hown, fun q hq => h.leaf?_merged_other hv hq, fun s hs => ?_, fun s s' hs hs' => ?_,
    fun s hs hno f hf hsection => ?_⟩
  · have hfits := Settings.fits_of_leaf? (faultless_merged hs) hown
    have hself := Setting.overlay?_eq_self hfits.ne_table
    rw [hself] at hown hfits
    cases hfits with
    | field f hplace hread =>
      obtain ⟨x, hx⟩ := Option.isSome_iff_exists.1 hread
      refine ⟨f, hplace, ?_⟩
      rw [get_of_load hs f (hplace ▸ htable), Field.leaf?, hplace, hown, Option.bind_some, hx]
      rfl
    | parameter hname _ =>
      exact absurd hv.mem_sections (hname ▸ by decide)
  · have hparameters : "parameters" ≠ place.1 := fun heq =>
      absurd hv.mem_sections (heq ▸ by decide)
    refine ⟨?_, fun f hf hsection => ?_⟩
    · rw [parameters_of_load hs, parameters_of_load hs', Layer.entriesIn, Layer.entriesIn,
        h.get?_merged_other hv hparameters]
    · by_cases hname : f.place.1 = place.1
      · rw [get_of_load hs f (hname ▸ htable), get_of_load hs' f (hname ▸ hsection hname),
          hother hf]
      · rw [eq_ofSections hs, eq_ofSections hs', Settings.get_ofSections, Settings.get_ofSections,
          Settings.accepted_congr (h.get?_merged_other hv hname)]
  · have hnone : f.leaf? (merged files (before ++ after)) = none := by
      have hne : ∀ o es, Entry.get? (merged files (before ++ after)) place.1 ≠ some (.table o es) :=
        fun o es heq => hno fun w hw => ⟨o, es, Option.some.inj (hw.symm.trans heq)⟩
      rw [Field.leaf?, Layer.leaf?, hsection, Layer.entriesIn_of_ne_table hne]
      rfl
    rw [get_of_load hs f (hsection ▸ htable), hother hf, hnone]
    rfl

/-- Variables that are named after sections and fields act in any order, and each decides the
leaf that it is named after and no other. -/
theorem load_perm_and_decidesLeaf (files : List (Except LoadFault Layer)) (h : Named vars) :
    (∀ vars', vars'.Perm vars → load files vars' = load files vars) ∧
    ∀ before v after place, vars = before ++ v :: after → Names v.1 place →
      DecidesLeaf files vars (before ++ after) v place := by
  constructor
  · intro vars' hperm
    rw [load, load, h.layer_perm hperm]
  · rintro before v after place rfl hv
    exact h.decidesLeaf hv

/-! ### Two variables over a file -/

theorem names_userAgent : Names "urlsplitter_Http_User_Agent" ("http", "user_agent") where
  small := by decide
  mem_sections := by decide
  nonempty := by decide
  word := List.all_iff_forall_prop.1 (by decide)

def cookie : String × String := ("URLSPLITTER_HTTP_COOKIE", "c")

def userAgent : String × String := ("urlsplitter_Http_User_Agent", "a")

theorem named_userAgent_cookie : Named [userAgent, cookie] where
  names := by
    intro v hv
    simp only [List.mem_cons, List.not_mem_nil, or_false] at hv
    rcases hv with rfl | rfl
    · exact ⟨_, names_userAgent⟩
    · exact ⟨_, names_cookie⟩
  distinct := by decide +kernel

theorem layerOf_cookie : layerOf cookie.1 cookie.2 =
    leafLayer ("http", "cookie") (.scalar .environment (.text "c")) := by
  have hvalue : settingOf "c" = .scalar .environment (.text "c") := rfl
  rw [cookie, names_cookie.layerOf_eq, hvalue]

theorem layerOf_userAgent : layerOf userAgent.1 userAgent.2 =
    leafLayer ("http", "user_agent") (.scalar .environment (.text "a")) := by
  have hvalue : settingOf "a" = .scalar .environment (.text "a") := rfl
  rw [userAgent, names_userAgent.layerOf_eq, hvalue]

/-- What a file says of the cookie and of the referer. -/
def cookieAndReferer : Layer :=
  [("http", .table .inline
    [("cookie", .scalar .inline (.text "f")), ("referer", .scalar .inline (.text "r"))])]

/-- In either order the variables give the agent and the cookie, and the referer stays. -/
theorem load_userAgent_cookie : ∃ s s', load [.ok cookieAndReferer] [cookie, userAgent] = .ok s ∧
    load [.ok cookieAndReferer] [userAgent, cookie] = .ok s ∧
    load [.ok cookieAndReferer] [userAgent] = .ok s' ∧
    s.http.userAgent = some "a" ∧ s.http.cookie = some "c" ∧ s'.http.cookie = some "f" ∧
    s.http.referer = s'.http.referer := by
  obtain ⟨horder, hleaf⟩ :=
    load_perm_and_decidesLeaf [.ok cookieAndReferer] named_userAgent_cookie
  have hs : load [.ok cookieAndReferer] [userAgent, cookie] =
      .ok { http := { userAgent := some "a", cookie := some "c", referer := some "r" } } := by
    rw [load, layer, List.map_cons, List.map_singleton, layerOf_userAgent, layerOf_cookie]
    cbv
  have hs' : load [.ok cookieAndReferer] [userAgent] =
      .ok { http := { userAgent := some "a", cookie := some "f", referer := some "r" } } := by
    rw [load, layer, List.map_singleton, layerOf_userAgent]
    cbv
  have htable : (merged [.ok cookieAndReferer] [userAgent]).TableAt "http" := by
    intro w hw
    rw [merged, layer, List.map_singleton, layerOf_userAgent] at hw
    cases hw
    exact ⟨_, _, rfl⟩
  have hkept := (hleaf [userAgent] cookie [] _ rfl names_cookie).kept _ _ hs hs'
  exact ⟨_, _, (horder _ (List.Perm.swap _ _ _)).trans hs, hs, hs', rfl, rfl, rfl,
    hkept.2 .referer (by decide) fun _ => htable⟩

/-- A directory with a file that gives the HTTP section by position. -/
def positional : Surroundings where
  files := [(⟨["work", Surroundings.fileName]⟩, "http = ['agent']\n")]
  workingDirectory := ⟨["work"]⟩
  userDirectory := none
  environment := []

/-- A variable for the cookie takes the agent away from a section that is given by position. -/
theorem userAgent_lost_to_cookie : Names cookie.1 ("http", "cookie") ∧
    Field.userAgent.place ≠ ("http", "cookie") ∧
    ∃ s s', load positional.fileLayers [] = .ok s ∧ load positional.fileLayers [cookie] = .ok s' ∧
      s.http.userAgent = some "agent" ∧ s'.http.userAgent = none := by
  have hread : (Toml.read? "http = ['agent']\n").bind Toml.unwrapTop? =
      some [("http", .array [.text "agent"])] := by cbv
  obtain ⟨o, hlocal⟩ : ∃ o, positional.fileLayer (positional.nearest? Surroundings.fileName) =
      .ok (Setting.ofEntries o _) := Surroundings.exists_fileLayer_of_read? rfl rfl hread
  have hfiles : positional.fileLayers =
      [.ok [], .ok [], .ok [("http", .array o [.scalar o (.text "agent")])]] := by
    rw [Surroundings.fileLayers, hlocal]
    cbv
  refine ⟨names_cookie, by decide, { http := { userAgent := some "agent" } },
    { http := { cookie := some "c" } }, ?_, ?_, rfl, rfl⟩
  · rw [hfiles]
    cbv
  · rw [hfiles, load, layer, List.map_singleton, layerOf_cookie]
    cbv

end Environment

end StreamSource
