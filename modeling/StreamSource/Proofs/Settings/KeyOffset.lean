import Mathlib.Order.Nat
import StreamSource.Proofs.Settings.KeyScan

/-! The byte at which a key is found. Lines are counted from the byte at which the search starts.
The answer is the least byte where the first character of a line that is no blank begins the key,
with a separator behind it; at this byte a character begins, and the bytes from it on are those
of the key. -/

namespace StreamSource.KeyPosition

open Text

variable {key cs : List Char}

/-! ### Prefixes of one text -/

theorem utf8ByteSize_eq_size (s : String) : s.utf8ByteSize = size s.toList := by
  rw [← length_flatMap_utf8EncodeChar, ← utf8_eq_flatMap]
  rfl

theorem size_le_iff_length_le {a b : List Char} (ha : a <+: cs) (hb : b <+: cs) :
    size a ≤ size b ↔ a.length ≤ b.length := by
  constructor
  · intro h
    by_contra hlt
    obtain ⟨d, rfl⟩ := List.prefix_of_prefix_length_le hb ha (by omega)
    have hd : d ≠ [] := by
      rintro rfl
      simp at hlt
    have hpos := size_pos hd
    rw [size_append] at h
    omega
  · exact fun h => size_le_of_prefix (List.prefix_of_prefix_length_le ha hb h)

/-- The last line of a text, and what comes before it. -/
theorem exists_lastLine (cs : List Char) : ∃ a b, cs = a ++ b ∧ StartsLine a ∧ '\n' ∉ b := by
  induction cs with
  | nil => exact ⟨[], [], rfl, .inl rfl, List.not_mem_nil⟩
  | cons c cs ih =>
    obtain ⟨a, b, rfl, ha | ha, hb⟩ := ih
    · subst ha
      by_cases hc : c = '\n'
      · exact ⟨[c], b, rfl, .inr (by rw [hc]; rfl), hb⟩
      · exact ⟨[], c :: b, rfl, .inl rfl, by simpa using ⟨Ne.symm hc, hb⟩⟩
    · exact ⟨c :: a, b, rfl, .inr (by rw [List.getLast?_cons, ha]; rfl), hb⟩

/-! ### Places by their bytes -/

/-- What stands before the part of a text in which a key is looked for: nothing if the path is
empty, and else all up to the end of the first header of the section. -/
inductive StartsBehind (content : String) : List String → String → Prop
  | top : StartsBehind content [] ""
  | header (name : String) (path : List String) (before : String) (rest : List Char)
      (hcut : FirstCut (header name) content.toList before.toList rest) :
      StartsBehind content (name :: path) (before ++ ("[" ++ name ++ "]"))

/-- At byte `o` a line of the text from byte `start` on has its first character that is no blank,
and the field and a separator come there. -/
def StandsAt (content field : String) (start o : Nat) : Prop :=
  ∃ before indent after : String, content = before ++ (indent ++ (field ++ after)) ∧
    o = before.utf8ByteSize + indent.utf8ByteSize ∧
    (before.utf8ByteSize = start ∨
      start < before.utf8ByteSize ∧ before.toList.getLast? = some '\n') ∧
    (∀ c ∈ indent.toList, isBlank c = true ∧ c ≠ '\n') ∧
    (∀ c ∈ (field ++ after).toList.head?, isBlank c = false) ∧
    ∃ c ∈ after.toList.head?, IsSeparator c

theorem StartsBehind.unique {content : String} {path : List String} {head head' : String}
    (h : StartsBehind content path head) (h' : StartsBehind content path head') : head = head' := by
  cases h with
  | top => cases h'; rfl
  | header name path before rest hcut =>
    cases h' with
    | header _ _ before' rest' hcut' =>
      rw [String.toList_inj.1 (hcut.unique hcut').1]

section Places

variable {content field head : String} {rest : List Char}

theorem StandsAt.exists_keyAt (hcontent : content.toList = head.toList ++ rest)
    (hfield : '\n' ∉ field.toList) {o : Nat} (h : StandsAt content field head.utf8ByteSize o) :
    ∃ before after, KeyAt field.toList rest before after ∧
      o = head.utf8ByteSize + size before := by
  obtain ⟨before, indent, after, heq, rfl, hline, hindent, hvisible, hseparated⟩ := h
  rw [utf8ByteSize_eq_size, utf8ByteSize_eq_size head] at hline
  have htext : content.toList =
      before.toList ++ (indent.toList ++ (field.toList ++ after.toList)) := by
    simp only [heq, String.toList_append]
  have hhead : head.toList <+: content.toList := ⟨rest, hcontent.symm⟩
  have hbefore : before.toList <+: content.toList := ⟨_, htext.symm⟩
  have hsize : size head.toList ≤ size before.toList := by omega
  obtain ⟨a, ha⟩ : head.toList <+: before.toList :=
    List.prefix_of_prefix_length_le hhead hbefore ((size_le_iff_length_le hhead hbefore).1 hsize)
  rw [← ha, size_append] at hline
  have hstarts : StartsLine a := by
    by_cases hnil : a = []
    · exact .inl hnil
    · have hpos := size_pos hnil
      rcases hline with hsame | ⟨-, hlast⟩
      · omega
      · exact .inr (List.getLast?_append_of_ne_nil _ hnil ▸ hlast)
  have hrest : rest = a ++ indent.toList ++ (field.toList ++ after.toList) := by
    rw [hcontent, ← ha, List.append_assoc head.toList] at htext
    rw [List.append_cancel_left htext, List.append_assoc]
  refine ⟨a ++ indent.toList, after.toList,
    ⟨hrest, hfield, ⟨a, indent.toList, rfl, hstarts, fun c hc => (hindent c hc).1⟩, ?_,
      hseparated⟩, ?_⟩
  · rwa [← String.toList_append]
  · simp only [utf8ByteSize_eq_size, ← ha, size_append, Nat.add_assoc]

theorem standsAt_of_keyAt (hcontent : content.toList = head.toList ++ rest)
    {before after : List Char} (hat : KeyAt field.toList rest before after) :
    StandsAt content field head.utf8ByteSize (head.utf8ByteSize + size before) := by
  obtain ⟨a, b, rfl, ha, hb⟩ := hat.indented
  -- the line of the key starts behind the last line feed of the blanks
  obtain ⟨c, indent, rfl, hc, hindent⟩ := exists_lastLine b
  refine ⟨String.ofList (head.toList ++ (a ++ c)), String.ofList indent, String.ofList after,
    ?_, ?_, ?_, ?_, ?_, ?_⟩
  · refine String.toList_inj.1 ?_
    simp only [hcontent, hat.eq_append, String.toList_append, String.toList_ofList,
      List.append_assoc]
  · simp only [utf8ByteSize_eq_size, String.toList_ofList, size_append, Nat.add_assoc]
  · simp only [utf8ByteSize_eq_size, String.toList_ofList, size_append]
    by_cases hnil : a ++ c = []
    · obtain ⟨rfl, rfl⟩ := List.append_eq_nil_iff.1 hnil
      exact .inl rfl
    · have hpos := size_pos hnil
      rw [size_append] at hpos
      refine .inr ⟨by omega, ?_⟩
      rw [List.getLast?_append_of_ne_nil _ hnil]
      exact (ha.append hc).resolve_left hnil
  · intro d hd
    rw [String.toList_ofList] at hd
    exact ⟨hb d (List.mem_append_right c hd), fun hfeed => hindent (hfeed ▸ hd)⟩
  · rw [String.toList_append, String.toList_ofList]
    exact hat.visible
  · rw [String.toList_ofList]
    exact hat.separated

/-- The first place by characters is the least by bytes. -/
theorem isLeast_standsAt_iff (hcontent : content.toList = head.toList ++ rest)
    (hfield : '\n' ∉ field.toList) {o : Nat} :
    IsLeast {n | StandsAt content field head.utf8ByteSize n} o ↔
      ∃ before after, FirstKeyAt field.toList rest before after ∧
        o = head.utf8ByteSize + size before := by
  constructor
  · rintro ⟨hmem, hleast⟩
    obtain ⟨before, after, hat, rfl⟩ := StandsAt.exists_keyAt hcontent hfield hmem
    refine ⟨before, after, ⟨hat, fun before' after' hat' => ?_⟩, rfl⟩
    have hle := hleast (standsAt_of_keyAt hcontent hat')
    exact (size_le_iff_length_le ⟨_, hat.eq_append.symm⟩ ⟨_, hat'.eq_append.symm⟩).1 (by omega)
  · rintro ⟨before, after, hfirst, rfl⟩
    refine ⟨standsAt_of_keyAt hcontent hfirst.toKeyAt, fun n hn => ?_⟩
    obtain ⟨before', after', hat', rfl⟩ := StandsAt.exists_keyAt hcontent hfield hn
    have hle := (size_le_iff_length_le ⟨_, hfirst.eq_append.symm⟩ ⟨_, hat'.eq_append.symm⟩).2
      (hfirst.first before' after' hat')
    omega

end Places

/-! ### The search -/

theorem StartsBehind.exists_rest {content head : String} {path : List String}
    (h : StartsBehind content path head) : ∃ rest, content.toList = head.toList ++ rest ∧
      ∀ field : String, offset? content path field =
        inLines? field.toList head.utf8ByteSize (lines rest) := by
  cases h with
  | top => exact ⟨content.toList, rfl, fun _ => rfl⟩
  | header name path before rest hcut =>
    have hlist : (before ++ ("[" ++ name ++ "]")).toList =
        before.toList ++ KeyPosition.header name := by
      simp [KeyPosition.header]
    refine ⟨rest, by rw [hlist, hcut.eq_append], fun field => ?_⟩
    rw [offset?, cut?_eq_some_iff.2 hcut, Option.bind_some, utf8ByteSize_eq_size, hlist,
      size_append]

theorem offset?_of_not_startsBehind {content : String} {path : List String} {field : String}
    (h : ∀ head, ¬ StartsBehind content path head) : offset? content path field = none := by
  cases path with
  | nil => exact absurd .top (h "")
  | cons name path =>
    rw [offset?, Option.bind_eq_none_iff]
    rintro ⟨a, rest⟩ hcut
    refine absurd ?_ (h (String.ofList a ++ ("[" ++ name ++ "]")))
    exact .header name path _ rest (by rw [String.toList_ofList]; exact cut?_eq_some_iff.1 hcut)

theorem offset?_eq_some_iff_isLeast {content head field : String} {path : List String}
    (h : StartsBehind content path head) (hfield : '\n' ∉ field.toList) {o : Nat} :
    offset? content path field = some o ↔
      IsLeast {n | StandsAt content field head.utf8ByteSize n} o := by
  obtain ⟨rest, hcontent, hoffset⟩ := h.exists_rest
  rw [hoffset, inLines?_eq_some_iff (areLines_lines rest), flatten_lines,
    isLeast_standsAt_iff hcontent hfield]

theorem StandsAt.bytes {content field : String} {start o : Nat}
    (h : StandsAt content field start o) :
    (∃ before after : String, content = before ++ after ∧ before.utf8ByteSize = o) ∧
      o + field.utf8ByteSize ≤ content.utf8ByteSize ∧
      ((utf8 content).drop o).take field.utf8ByteSize = utf8 field := by
  obtain ⟨before, indent, after, rfl, rfl, -⟩ := h
  refine ⟨⟨before ++ indent, field ++ after, ?_, ?_⟩, ?_, ?_⟩
  · rw [String.append_assoc]
  · rw [String.utf8ByteSize_append]
  · simp only [String.utf8ByteSize_append]
    omega
  · have hlist : (before ++ (indent ++ (field ++ after))).toList =
        before.toList ++ indent.toList ++ (field.toList ++ after.toList) := by
      simp only [String.toList_append, List.append_assoc]
    rw [← take_drop_utf8 hlist]
    simp only [utf8ByteSize_eq_size, size_append]

/-- The search for a key without a line feed finds the least byte where it stands behind the
header, and nothing if there is no such byte or no header. A character begins at this byte, and
the bytes of the key come there before the text ends. -/
theorem offset?_isLeast {content field : String} {path : List String}
    (hfield : '\n' ∉ field.toList) :
    (∀ head, StartsBehind content path head →
      (∀ o, offset? content path field = some o ↔
        IsLeast {n | StandsAt content field head.utf8ByteSize n} o) ∧
      (offset? content path field = none ↔
        ∀ o, ¬ StandsAt content field head.utf8ByteSize o)) ∧
    ((∀ head, ¬ StartsBehind content path head) → offset? content path field = none) ∧
    ∀ o, offset? content path field = some o →
      (∃ before after : String, content = before ++ after ∧ before.utf8ByteSize = o) ∧
      o + field.utf8ByteSize ≤ content.utf8ByteSize ∧
      ((utf8 content).drop o).take field.utf8ByteSize = utf8 field := by
  have hiff {head : String} (h : StartsBehind content path head) {o : Nat} :=
    offset?_eq_some_iff_isLeast h hfield (o := o)
  refine ⟨fun head h => ⟨fun o => hiff h, ?_⟩, offset?_of_not_startsBehind, fun o ho => ?_⟩
  · rw [Option.eq_none_iff_forall_ne_some]
    constructor
    · classical
      intro hnone o hstands
      have hsome : ∃ n, StandsAt content field head.utf8ByteSize n := ⟨o, hstands⟩
      have hleast : IsLeast {n | StandsAt content field head.utf8ByteSize n} (Nat.find hsome) :=
        ⟨Nat.find_spec hsome, fun n hn => Nat.find_min' hsome hn⟩
      exact hnone _ ((hiff h).2 hleast)
    · exact fun hno o ho => hno o ((hiff h).1 ho).1
  · by_cases hhead : ∃ head, StartsBehind content path head
    · obtain ⟨head, h⟩ := hhead
      exact ((hiff h).1 ho).1.bytes
    · rw [offset?_of_not_startsBehind (not_exists.1 hhead)] at ho
      cases ho

/-- The header ends at byte 11; a line break and a blank of two bytes come before the key. -/
theorem offset?_indented :
    let content := "# ü\n[http]\r\n\u00a0cookie\t= 'x'"
    '\n' ∉ "cookie".toList ∧ offset? content ["http"] "cookie" = some 15 ∧
      IsLeast {n | StandsAt content "cookie" 11 n} 15 ∧
      ((utf8 content).drop 15).take 6 = utf8 "cookie" := by
  intro content
  have hfield : '\n' ∉ "cookie".toList := by decide
  have hoffset : offset? content ["http"] "cookie" = some 15 := by decide
  have hhead : StartsBehind content ["http"] ("# ü\n" ++ ("[" ++ "http" ++ "]")) :=
    .header "http" [] "# ü\n" "\r\n\u00a0cookie\t= 'x'".toList (cut?_eq_some_iff.1 (by decide))
  obtain ⟨hfinds, -, hbytes⟩ := @offset?_isLeast content "cookie" ["http"] hfield
  exact ⟨hfield, hoffset, ((hfinds _ hhead).1 15).1 hoffset, (hbytes 15 hoffset).2.2⟩

end StreamSource.KeyPosition
