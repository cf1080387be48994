import StreamSource.Toml.Reader

/-! What a reader leaves of a text. Every reader takes characters from the front only, so the rest
is an end of the text that it was given, and what ends a line leaves off behind a line feed or at
the end of the text. -/

namespace StreamSource

namespace Text

variable {cs r : List Char}

/-- What becomes of what was read does not concern the rest. -/
theorem exists_of_map_fst {α β : Type} {x : Option (α × List Char)} {g : α → β} {b : β}
    (h : x.map (fun p => (g p.1, p.2)) = some (b, r)) : ∃ a, x = some (a, r) := by
  obtain ⟨⟨a, r'⟩, rfl, heq⟩ := Option.map_eq_some_iff.1 h
  cases heq
  exact ⟨a, rfl⟩

theorem suffix_of_numberedEscape? {width : Nat} {c : Char}
    (h : numberedEscape? width cs = some (c, r)) : r <:+ cs := by
  simp only [numberedEscape?, Option.ite_none_left_eq_some, Option.bind_eq_some_iff,
    Option.map_eq_some_iff, Prod.mk.injEq] at h
  obtain ⟨_, _, _, _, _, _, rfl⟩ := h
  exact List.drop_suffix width cs

theorem suffix_of_escape? {c : Char} (h : escape? cs = some (c, r)) : r <:+ cs := by
  unfold escape? at h
  split at h
  next => exact (suffix_of_numberedEscape? h).trans (List.suffix_cons _ _)
  next => exact (suffix_of_numberedEscape? h).trans (List.suffix_cons _ _)
  next =>
    simp only [Option.map_eq_some_iff, Prod.mk.injEq] at h
    obtain ⟨_, _, _, rfl⟩ := h
    exact List.suffix_cons _ _
  next => cases h

theorem suffix_of_escapedBody? {fuel : Nat} {s : List Char}
    (h : escapedBody? fuel cs = some (s, r)) : r <:+ cs := by
  induction fuel generalizing cs s with
  | zero => cases h
  | succ fuel ih =>
    unfold escapedBody? at h
    split at h
    next => cases h
    next =>
      cases h
      exact List.suffix_cons _ _
    next =>
      simp only [Option.bind_eq_bind, Option.bind_eq_some_iff, Prod.exists, Option.pure_def,
        Option.some.injEq, Prod.mk.injEq] at h
      obtain ⟨_, _, hescape, _, _, hbody, _, rfl⟩ := h
      exact ((ih hbody).trans (suffix_of_escape? hescape)).trans (List.suffix_cons _ _)
    next =>
      obtain ⟨_, h⟩ := Option.ite_none_right_eq_some.1 h
      obtain ⟨_, hbody⟩ := exists_of_map_fst h
      exact (ih hbody).trans (List.suffix_cons _ _)

theorem suffix_of_escaped? {s : String} (h : escaped? cs = some (s, r)) : r <:+ cs := by
  obtain ⟨_, hbody⟩ := exists_of_map_fst h
  exact suffix_of_escapedBody? hbody

end Text

namespace Toml

open Text (isTextChar exists_of_map_fst suffix_of_escaped? suffix_of_escape?)

variable {cs r : List Char}

theorem skipSpace_suffix (cs : List Char) : skipSpace cs <:+ cs := List.dropWhile_suffix _

theorem suffix_of_newline? (h : newline? cs = some r) : r <:+ cs := by
  unfold newline? at h
  split at h
  next =>
    cases h
    exact List.suffix_cons _ _
  next =>
    cases h
    exact (List.suffix_cons _ _).trans (List.suffix_cons _ _)
  next => cases h

/-! ### Texts -/

theorem suffix_of_literalBody? {s : List Char} (h : literalBody? cs = some (s, r)) : r <:+ cs := by
  unfold literalBody? at h
  dsimp only at h
  split at h
  next => cases h
  next hdrop =>
    simp only [Option.ite_none_right_eq_some, Option.some.injEq, Prod.mk.injEq] at h
    obtain ⟨_, _, rfl⟩ := h
    exact (List.suffix_cons _ _).trans (hdrop ▸ List.drop_suffix _ _)

theorem swallow_suffix (cs : List Char) : swallow cs <:+ cs := by
  fun_induction swallow cs with
  | case1 r ih => exact (ih.trans (List.suffix_cons _ _)).trans (List.suffix_cons _ _)
  | case2 c r _ _ ih => exact ih.trans (List.suffix_cons _ _)
  | case3 => exact List.suffix_rfl
  | case4 => exact List.suffix_rfl

theorem suffix_of_linesBody? {quote : Char} {escapes : Bool} {fuel : Nat} {s : List Char}
    (h : linesBody? quote escapes fuel cs = some (s, r)) : r <:+ cs := by
  induction fuel generalizing cs s with
  | zero => cases h
  | succ fuel ih =>
    unfold linesBody? at h
    split at h
    next hnewline =>
      obtain ⟨_, hbody⟩ := exists_of_map_fst h
      exact (ih hbody).trans (suffix_of_newline? hnewline)
    next =>
      split at h
      next => cases h
      next c cs _ =>
        split at h
        next =>
          dsimp only at h
          split at h
          next =>
            obtain ⟨_, hbody⟩ := exists_of_map_fst h
            exact (ih hbody).trans (List.drop_suffix _ _)
          next =>
            simp only [Option.ite_none_right_eq_some, Option.some.injEq, Prod.mk.injEq] at h
            obtain ⟨_, _, rfl⟩ := h
            exact List.drop_suffix _ _
        next =>
          split at h
          next =>
            split at h
            next hnewline =>
              have hskipped := (suffix_of_newline? hnewline).trans (skipSpace_suffix cs)
              exact (((ih h).trans (swallow_suffix _)).trans hskipped).trans (List.suffix_cons c cs)
            next =>
              simp only [Option.bind_eq_bind, Option.bind_eq_some_iff, Prod.exists,
                Option.pure_def, Option.some.injEq, Prod.mk.injEq] at h
              obtain ⟨_, _, hescape, _, _, hbody, _, rfl⟩ := h
              exact ((ih hbody).trans (suffix_of_escape? hescape)).trans (List.suffix_cons c cs)
          next =>
            obtain ⟨_, h⟩ := Option.ite_none_right_eq_some.1 h
            obtain ⟨_, hbody⟩ := exists_of_map_fst h
            exact (ih hbody).trans (List.suffix_cons c cs)

theorem suffix_of_lines? {quote : Char} {escapes : Bool} {s : List Char}
    (h : lines? quote escapes cs = some (s, r)) : r <:+ cs := by
  refine (suffix_of_linesBody? h).trans ?_
  cases hnewline : newline? cs with
  | none => exact List.suffix_rfl
  | some r => exact suffix_of_newline? hnewline

theorem suffix_of_lineText? {s : String} (h : lineText? cs = some (s, r)) : r <:+ cs := by
  unfold lineText? at h
  split at h
  next => exact (suffix_of_escaped? h).trans (List.suffix_cons _ _)
  next =>
    obtain ⟨_, hbody⟩ := exists_of_map_fst h
    exact (suffix_of_literalBody? hbody).trans (List.suffix_cons _ _)
  next => cases h

theorem suffix_of_text? {s : String} (h : text? cs = some (s, r)) : r <:+ cs := by
  have hthree (a b c : Char) (cs : List Char) : cs <:+ a :: b :: c :: cs := ⟨[a, b, c], rfl⟩
  unfold text? at h
  split at h
  next =>
    obtain ⟨_, hlines⟩ := exists_of_map_fst h
    exact (suffix_of_lines? hlines).trans (hthree _ _ _ _)
  next =>
    obtain ⟨_, hlines⟩ := exists_of_map_fst h
    exact (suffix_of_lines? hlines).trans (hthree _ _ _ _)
  next => exact suffix_of_lineText? h

/-! ### Keys -/

theorem suffix_of_simpleKey? {k : String} (h : simpleKey? cs = some (k, r)) : r <:+ cs := by
  unfold simpleKey? at h
  split at h
  next => exact suffix_of_lineText? h
  next => exact suffix_of_lineText? h
  next =>
    simp only [Option.ite_none_left_eq_some, Option.some.injEq, Prod.mk.injEq] at h
    obtain ⟨_, _, rfl⟩ := h
    exact List.drop_suffix _ _

theorem suffix_of_keyParts? {fuel : Nat} {ks : List String}
    (h : keyParts? fuel cs = some (ks, r)) : r <:+ cs := by
  induction fuel generalizing cs ks with
  | zero => cases h
  | succ fuel ih =>
    simp only [keyParts?, Option.bind_eq_bind, Option.bind_eq_some_iff, Prod.exists] at h
    obtain ⟨k, r', hkey, h⟩ := h
    have hrest : skipSpace r' <:+ cs :=
      ((skipSpace_suffix r').trans (suffix_of_simpleKey? hkey)).trans (skipSpace_suffix cs)
    split at h
    next hdot =>
      simp only [Option.bind_eq_some_iff, Prod.exists, Option.pure_def, Option.some.injEq,
        Prod.mk.injEq] at h
      obtain ⟨_, _, hparts, _, rfl⟩ := h
      exact ((ih hparts).trans (List.suffix_cons _ _)).trans (hdot ▸ hrest)
    next =>
      cases h
      exact hrest

theorem suffix_of_key? {k : List String × String} (h : key? cs = some (k, r)) : r <:+ cs := by
  simp only [key?, Option.bind_eq_bind, Option.bind_eq_some_iff, Prod.exists] at h
  obtain ⟨ks, r', hparts, h⟩ := h
  split at h
  next => simp at h
  next =>
    simp only [Option.pure_def, Option.bind_eq_some_iff, Option.some.injEq,
      Prod.mk.injEq] at h
    obtain ⟨_, _, _, rfl⟩ := h
    exact suffix_of_keyParts? hparts

/-! ### Values -/

theorem suffix_of_scalar? {v : Toml} (h : scalar? cs = some (v, r)) : r <:+ cs := by
  have hword : cs.dropWhile isWordChar <:+ cs := List.dropWhile_suffix _
  simp only [scalar?, Option.orElse_eq_orElse, Option.orElse_eq_or, Option.or_eq_some_iff] at h
  rcases h with h | ⟨_, h⟩
  · split at h
    next r' hspace =>
      obtain ⟨_, h⟩ := Option.ite_none_right_eq_some.1 h
      obtain ⟨_, _, heq⟩ := Option.map_eq_some_iff.1 h
      cases heq
      exact ((List.drop_suffix _ r').trans (List.suffix_cons ' ' r')).trans (hspace ▸ hword)
    next => cases h
  · obtain ⟨_, _, heq⟩ := Option.map_eq_some_iff.1 h
    cases heq
    exact hword

theorem skipLines_suffix (comment : Bool) (cs : List Char) : skipLines comment cs <:+ cs := by
  fun_induction skipLines comment cs with
  | case1 => exact List.suffix_rfl
  | case2 _ r ih => exact ih.trans (List.suffix_cons _ _)
  | case3 _ r ih => exact (ih.trans (List.suffix_cons _ _)).trans (List.suffix_cons _ _)
  | case4 c r _ _ _ ih => exact ih.trans (List.suffix_cons _ _)
  | case5 => exact List.suffix_rfl
  | case6 c r _ _ _ ih => exact ih.trans (List.suffix_cons _ _)
  | case7 r _ _ _ ih => exact ih.trans (List.suffix_cons _ _)
  | case8 => exact List.suffix_rfl

/-- The readers of values leave an end of the text with so much fuel. -/
structure LeaveEnds (fuel : Nat) : Prop where
  value {depth : Nat} {cs r : List Char} {v : Toml} (h : value? fuel depth cs = some (v, r)) :
    r <:+ cs
  items {depth : Nat} {cs r : List Char} {vs : List Toml}
    (h : items? fuel depth cs = some (vs, r)) : r <:+ cs
  pairs {depth : Nat} {cs r : List Char} {es : List (List String × String × Toml)}
    (h : pairs? fuel depth cs = some (es, r)) : r <:+ cs

namespace LeaveEnds

variable {fuel depth : Nat}

theorem value_succ (ih : LeaveEnds fuel) {v : Toml}
    (h : value? (fuel + 1) depth cs = some (v, r)) : r <:+ cs := by
  unfold value? at h
  split at h
  next =>
    obtain ⟨_, htext⟩ := exists_of_map_fst h
    exact suffix_of_text? htext
  next =>
    obtain ⟨_, htext⟩ := exists_of_map_fst h
    exact suffix_of_text? htext
  next =>
    obtain ⟨_, h⟩ := Option.ite_none_left_eq_some.1 h
    obtain ⟨_, hitems⟩ := exists_of_map_fst h
    exact (ih.items hitems).trans (List.suffix_cons _ _)
  next r' =>
    obtain ⟨_, h⟩ := Option.ite_none_left_eq_some.1 h
    have hskip := (skipSpace_suffix r').trans (List.suffix_cons '\x7b' r')
    split at h
    next hclose =>
      cases h
      exact (List.suffix_cons _ _).trans (hclose ▸ hskip)
    next =>
      simp only [Option.bind_eq_bind, Option.bind_eq_some_iff, Prod.exists, Option.pure_def,
        Option.some.injEq, Prod.mk.injEq] at h
      obtain ⟨_, _, hpairs, _, _, _, rfl⟩ := h
      exact (ih.pairs hpairs).trans hskip
  next => exact suffix_of_scalar? h

theorem items_succ (ih : LeaveEnds fuel) {vs : List Toml}
    (h : items? (fuel + 1) depth cs = some (vs, r)) : r <:+ cs := by
  have hskip := skipLines_suffix false cs
  unfold items? at h
  split at h
  next hclose =>
    cases h
    exact (List.suffix_cons _ _).trans (hclose ▸ hskip)
  next =>
    simp only [Option.bind_eq_bind, Option.bind_eq_some_iff, Prod.exists] at h
    obtain ⟨v, r', hvalue, h⟩ := h
    have hrest := ((skipLines_suffix false r').trans (ih.value hvalue)).trans hskip
    split at h
    next hclose =>
      cases h
      exact (List.suffix_cons _ _).trans (hclose ▸ hrest)
    next hcomma =>
      simp only [Option.bind_eq_some_iff, Prod.exists, Option.pure_def, Option.some.injEq,
        Prod.mk.injEq] at h
      obtain ⟨_, _, hitems, _, rfl⟩ := h
      exact ((ih.items hitems).trans (List.suffix_cons _ _)).trans (hcomma ▸ hrest)
    next => cases h

theorem pairs_succ (ih : LeaveEnds fuel) {es : List (List String × String × Toml)}
    (h : pairs? (fuel + 1) depth cs = some (es, r)) : r <:+ cs := by
  simp only [pairs?, Option.bind_eq_bind, Option.bind_eq_some_iff, Prod.exists] at h
  obtain ⟨path, key, r', hkey, h⟩ := h
  split at h
  next r₁ =>
    simp only [Option.bind_eq_some_iff, Prod.exists] at h
    obtain ⟨v, r₂, hvalue, h⟩ := h
    have hrest : skipSpace r₂ <:+ cs :=
      ((skipSpace_suffix r₂).trans (ih.value hvalue)).trans
        ((skipSpace_suffix _).trans ((List.suffix_cons _ _).trans (suffix_of_key? hkey)))
    split at h
    next hclose =>
      cases h
      exact (List.suffix_cons _ _).trans (hclose ▸ hrest)
    next hcomma =>
      simp only [Option.bind_eq_some_iff, Prod.exists, Option.pure_def, Option.some.injEq,
        Prod.mk.injEq] at h
      obtain ⟨_, _, hpairs, _, rfl⟩ := h
      exact ((ih.pairs hpairs).trans (List.suffix_cons _ _)).trans (hcomma ▸ hrest)
    next => cases h
  next => cases h

end LeaveEnds

theorem leaveEnds (fuel : Nat) : LeaveEnds fuel := by
  induction fuel with
  | zero => constructor <;> intros <;> simp_all [value?, items?, pairs?]
  | succ fuel ih => exact ⟨ih.value_succ, ih.items_succ, ih.pairs_succ⟩

/-! ### Lines -/

/-- What is left of a text starts a line, or nothing is left. -/
def EndsLine (cs r : List Char) : Prop := ∃ a, cs = a ++ r ∧ (r = [] ∨ a.getLast? = some '\n')

theorem EndsLine.of_suffix {left : List Char} (h : EndsLine left r) (hleft : left <:+ cs) :
    EndsLine cs r := by
  obtain ⟨b, rfl⟩ := hleft
  obtain ⟨a, rfl, hlast⟩ := h
  refine ⟨b ++ a, (List.append_assoc b a r).symm, hlast.imp_right fun hlast => ?_⟩
  rw [List.getLast?_append, hlast]
  rfl

theorem endsLine_of_newline? (h : newline? cs = some r) : EndsLine cs r := by
  unfold newline? at h
  split at h
  next =>
    cases h
    exact ⟨['\n'], rfl, .inr rfl⟩
  next =>
    cases h
    exact ⟨['\r', '\n'], rfl, .inr rfl⟩
  next => cases h

theorem endsLine_of_lineEnd? (h : lineEnd? cs = some r) : EndsLine cs r := by
  -- what stands behind spaces and a comment is an end of the text
  obtain ⟨left, hleft, hend⟩ :
      ∃ left, left <:+ cs ∧ (if left.isEmpty then some [] else newline? left) = some r := by
    have hskip := skipSpace_suffix cs
    unfold lineEnd? at h
    dsimp only at h
    split at h
    next hcomment =>
      refine ⟨_, (List.dropWhile_suffix _).trans ?_, h⟩
      exact (List.suffix_cons _ _).trans (hcomment ▸ hskip)
    next => exact ⟨_, hskip, h⟩
  split at hend
  next =>
    cases hend
    exact ⟨cs, (List.append_nil cs).symm, .inl rfl⟩
  next => exact (endsLine_of_newline? hend).of_suffix hleft

theorem endsLine_of_headerLine? {l : Line} (h : headerLine? cs = some (l, r)) :
    EndsLine cs r := by
  unfold headerLine? at h
  split at h
  next cs =>
    simp only [Option.bind_eq_bind, Option.bind_eq_some_iff, Prod.exists] at h
    obtain ⟨path, key, r', hkey, h⟩ := h
    have hkey := (suffix_of_key? hkey).trans (List.suffix_cons '[' cs)
    split at h
    next left =>
      simp only [Option.bind_eq_some_iff, Option.pure_def, Option.some.injEq, Prod.mk.injEq] at h
      obtain ⟨_, hend, _, rfl⟩ := h
      refine (endsLine_of_lineEnd? hend).of_suffix (List.IsSuffix.trans ?_ hkey)
      exact (List.suffix_cons _ _).trans (List.suffix_cons _ _)
    next => cases h
  next =>
    simp only [Option.bind_eq_bind, Option.bind_eq_some_iff, Prod.exists] at h
    obtain ⟨path, key, r', hkey, h⟩ := h
    split at h
    next left =>
      simp only [Option.bind_eq_some_iff, Option.pure_def, Option.some.injEq, Prod.mk.injEq] at h
      obtain ⟨_, hend, _, rfl⟩ := h
      refine (endsLine_of_lineEnd? hend).of_suffix ?_
      exact (List.suffix_cons _ _).trans (suffix_of_key? hkey)
    next => cases h

/-- A bracket closes the header of a table, and the line ends behind it. -/
theorem exists_close_of_headerLine? {path : List String} {key : String}
    (h : headerLine? cs = some (.header path key, r)) :
    ∃ left, ']' :: left <:+ cs ∧ EndsLine left r := by
  unfold headerLine? at h
  split at h
  next =>
    simp only [Option.bind_eq_bind, Option.bind_eq_some_iff, Prod.exists] at h
    obtain ⟨_, _, _, _, h⟩ := h
    split at h
    next =>
      obtain ⟨_, _, hheader⟩ := Option.bind_eq_some_iff.1 h
      cases hheader
    next => cases h
  next =>
    simp only [Option.bind_eq_bind, Option.bind_eq_some_iff, Prod.exists] at h
    obtain ⟨path', key', r', hkey, h⟩ := h
    split at h
    next left =>
      simp only [Option.bind_eq_some_iff, Option.pure_def, Option.some.injEq, Prod.mk.injEq] at h
      obtain ⟨_, hend, _, rfl⟩ := h
      exact ⟨left, suffix_of_key? hkey, endsLine_of_lineEnd? hend⟩
    next => cases h

theorem endsLine_of_entryLine? {fuel : Nat} {l : Line} (h : entryLine? fuel cs = some (l, r)) :
    EndsLine cs r := by
  simp only [entryLine?, Option.bind_eq_bind, Option.bind_eq_some_iff, Prod.exists] at h
  obtain ⟨path, key, r', hkey, h⟩ := h
  split at h
  next left =>
    simp only [Option.bind_eq_some_iff, Prod.exists, Option.pure_def, Option.some.injEq,
      Prod.mk.injEq] at h
    obtain ⟨v, r', hvalue, _, hend, _, rfl⟩ := h
    refine (endsLine_of_lineEnd? hend).of_suffix (((leaveEnds _).value hvalue).trans ?_)
    exact (skipSpace_suffix left).trans ((List.suffix_cons _ _).trans (suffix_of_key? hkey))
  next => cases h

end Toml

end StreamSource
