import Mathlib.Data.List.TakeWhile
import StreamSource.Proofs.Text.Blank
import StreamSource.Proofs.Toml.Rest

/-! The lines of a document with their places in its text. A line that says something begins where
a line of the text does, but for spaces, and the next one begins behind its end. -/

namespace StreamSource.Toml

open Text (StartsLine startsLine_append)

/-- A line with the text from its first character on and the text behind its end. -/
structure Placed where
  text : List Char
  line : Line
  rest : List Char

/-- A line read from `text` and put before the lines that `more` reads from the rest. -/
def placedBefore? (text : List Char) (more : List Char → Option (List Placed)) :
    Option (Line × List Char) → Option (List Placed)
  | some (l, rest) => (more rest).map (⟨text, l, rest⟩ :: ·)
  | none => none

/-- The lines that say something, in order. -/
def placed? : Nat → List Char → Option (List Placed)
  | 0, _ => none
  | fuel + 1, cs =>
    match skipSpace cs with
    | [] => some []
    | '[' :: r => placedBefore? ('[' :: r) (placed? fuel) (headerLine? r)
    | '#' :: r => (lineEnd? ('#' :: r)).bind (placed? fuel)
    | '\n' :: r => placed? fuel r
    | '\r' :: r => (newline? ('\r' :: r)).bind (placed? fuel)
    | r => placedBefore? r (placed? fuel) (entryLine? (2 * r.length + 2) r)

/-- The lines of a whole document. A byte order mark may come first. -/
def placedLines? (s : String) : Option (List Placed) :=
  let cs := match s.toList with
    | '\uFEFF' :: r => r
    | cs => cs
  placed? (cs.length + 1) cs

theorem map_line_placedBefore? (text : List Char) {more : List Char → Option (List Placed)}
    {document : List Char → Option (List Line)}
    (hmore : ∀ r, (more r).map (·.map Placed.line) = document r)
    (read : Option (Line × List Char)) :
    (placedBefore? text more read).map (·.map Placed.line) = do
      let (l, r) ← read
      return l :: (← document r) := by
  cases read with
  | none => rfl
  | some p =>
    simp only [placedBefore?, Option.bind_eq_bind, Option.bind_some, Option.pure_def, ← hmore]
    cases more p.2 <;> rfl

/-- The places aside, these are the lines of the document. -/
theorem map_line_placed? (fuel : Nat) (cs : List Char) :
    (placed? fuel cs).map (·.map Placed.line) = document? fuel cs := by
  induction fuel generalizing cs with
  | zero => rfl
  | succ fuel ih =>
    rw [document?]
    split
    next hline =>
      rw [placed?, hline]
      rfl
    next hline =>
      rw [placed?, hline]
      exact map_line_placedBefore? _ ih _
    next hline =>
      rw [placed?, hline]
      exact Option.map_bind.trans (congrArg _ (funext ih))
    next hline =>
      rw [placed?, hline]
      exact ih _
    next hline =>
      rw [placed?, hline]
      exact Option.map_bind.trans (congrArg _ (funext ih))
    next hnil hopen hcomment hfeed hreturn =>
      rw [placed?]
      split
      next hline => exact absurd hline hnil
      next hline => exact absurd hline (hopen _)
      next hline => exact absurd hline (hcomment _)
      next hline => exact absurd hline (hfeed _)
      next hline => exact absurd hline (hreturn _)
      next => exact map_line_placedBefore? _ ih _

/-- A document is read from its lines. -/
theorem read?_eq_assemble (s : String) : read? s =
    ((placedLines? s).bind fun ps => assemble [] (ps.map Placed.line)).map Entries.toToml := by
  unfold read? placedLines?
  dsimp only
  rw [← map_line_placed?, Option.bind_eq_bind, Option.bind_map, Option.map_bind]
  refine congrArg _ (funext fun ps => ?_)
  exact Option.map_eq_bind.symm

namespace Placed

/-- What the line says is read from its text. -/
inductive Reads (p : Placed) : Prop
  | header (r : List Char) (htext : p.text = '[' :: r)
      (hread : headerLine? r = some (p.line, p.rest))
  | entry (fuel : Nat) (hread : entryLine? fuel p.text = some (p.line, p.rest))

/-- A line begins in a text where a line of the text does, but for spaces. -/
def Within (cs : List Char) (p : Placed) : Prop :=
  ∃ a b, cs = a ++ (b ++ p.text) ∧ StartsLine a ∧ ∀ c ∈ b, isSpace c = true

variable {p : Placed} {cs r : List Char}

theorem Reads.ne_nil (h : p.Reads) : p.text ≠ [] := by
  cases h with
  | header r htext hread => simp [htext]
  | entry fuel hread =>
    intro hnil
    rw [hnil] at hread
    cases hread

theorem Reads.endsLine (h : p.Reads) : EndsLine p.text p.rest := by
  cases h with
  | header r htext hread =>
    exact (endsLine_of_headerLine? hread).of_suffix (htext ▸ List.suffix_cons '[' r)
  | entry fuel hread => exact endsLine_of_entryLine? hread

theorem Within.suffix (h : p.Within cs) : p.text <:+ cs := by
  obtain ⟨a, b, rfl, -, -⟩ := h
  exact (List.suffix_append b _).trans (List.suffix_append a _)

theorem Within.of_endsLine (h : p.Within r) (hne : p.text ≠ []) (hend : EndsLine cs r) :
    p.Within cs := by
  obtain ⟨left, rfl, hlast⟩ := hend
  obtain ⟨a, b, rfl, ha, hb⟩ := h
  rcases hlast with hnil | hlast
  · simp [hne] at hnil
  · exact ⟨left ++ a, b, by rw [List.append_assoc], .inr (startsLine_append ha hlast), hb⟩

end Placed

/-! ### The order of the lines -/

variable {fuel : Nat} {cs r : List Char} {ps : List Placed}

theorem exists_of_placedBefore? {text : List Char} {more : List Char → Option (List Placed)}
    {read : Option (Line × List Char)} (h : placedBefore? text more read = some ps) :
    ∃ p ps', ps = p :: ps' ∧ p.text = text ∧ read = some (p.line, p.rest) ∧
      more p.rest = some ps' := by
  cases read with
  | none => cases h
  | some x =>
    obtain ⟨ps', hmore, rfl⟩ := Option.map_eq_some_iff.1 h
    exact ⟨_, ps', rfl, rfl, rfl, hmore⟩

/-- What one step does: it comes to the end, leaves a line that says nothing, or reads one. -/
theorem placed?_succ_cases (h : placed? (fuel + 1) cs = some ps) :
    ps = [] ∨ (∃ r, EndsLine cs r ∧ placed? fuel r = some ps) ∨
      ∃ p ps', ps = p :: ps' ∧ skipSpace cs = p.text ∧ p.Reads ∧ placed? fuel p.rest = some ps' := by
  have hskip := skipSpace_suffix cs
  unfold placed? at h
  split at h
  next =>
    cases h
    exact .inl rfl
  next r hopen =>
    obtain ⟨p, ps', rfl, htext, hread, h⟩ := exists_of_placedBefore? h
    exact .inr (.inr ⟨p, ps', rfl, hopen.trans htext.symm, .header r htext hread, h⟩)
  next r hcomment =>
    obtain ⟨left, hend, h⟩ := Option.bind_eq_some_iff.1 h
    exact .inr (.inl ⟨left, (endsLine_of_lineEnd? hend).of_suffix (hcomment ▸ hskip), h⟩)
  next r hfeed =>
    have hend : EndsLine ('\n' :: r) r := endsLine_of_newline? rfl
    exact .inr (.inl ⟨r, hend.of_suffix (hfeed ▸ hskip), h⟩)
  next r hreturn =>
    obtain ⟨left, hend, h⟩ := Option.bind_eq_some_iff.1 h
    exact .inr (.inl ⟨left, (endsLine_of_newline? hend).of_suffix (hreturn ▸ hskip), h⟩)
  next =>
    obtain ⟨p, ps', rfl, htext, hread, h⟩ := exists_of_placedBefore? h
    exact .inr (.inr ⟨p, ps', rfl, htext.symm, .entry _ (htext ▸ hread), h⟩)

/-- The lines stand in a text one behind the other. -/
structure InOrder (cs : List Char) (ps : List Placed) : Prop where
  within : ∀ p ∈ ps, p.Within cs
  reads : ∀ p ∈ ps, p.Reads
  behind : ps.Pairwise fun p q => q.Within p.rest

theorem inOrder_of_placed? (h : placed? fuel cs = some ps) : InOrder cs ps := by
  induction fuel generalizing cs ps with
  | zero => cases h
  | succ fuel ih =>
    rcases placed?_succ_cases h with rfl | ⟨r, hend, h⟩ | ⟨p, ps, rfl, hskip, hp, h⟩
    · exact ⟨fun _ hp => (nomatch hp), fun _ hp => (nomatch hp), List.Pairwise.nil⟩
    · have hrest := ih h
      refine ⟨fun p hp => ?_, hrest.reads, hrest.behind⟩
      exact (hrest.within p hp).of_endsLine (hrest.reads p hp).ne_nil hend
    · have hrest := ih h
      have hown : p.Within cs := by
        refine ⟨[], cs.takeWhile isSpace, ?_, .inl rfl, fun c hc => List.mem_takeWhile_imp hc⟩
        rw [List.nil_append, ← hskip]
        exact List.takeWhile_append_dropWhile.symm
      have hend : EndsLine cs p.rest := hp.endsLine.of_suffix hown.suffix
      refine ⟨List.forall_mem_cons.2 ⟨hown, fun q hq => ?_⟩,
        List.forall_mem_cons.2 ⟨hp, hrest.reads⟩, List.pairwise_cons.2 ⟨hrest.within, hrest.behind⟩⟩
      exact (hrest.within q hq).of_endsLine (hrest.reads q hq).ne_nil hend

theorem inOrder_of_placedLines? {s : String} (h : placedLines? s = some ps) :
    ∃ cs, cs <:+ s.toList ∧ InOrder cs ps := by
  unfold placedLines? at h
  dsimp only at h
  split at h
  next r heq => exact ⟨r, heq ▸ List.suffix_cons _ r, inOrder_of_placed? h⟩
  next => exact ⟨_, List.suffix_rfl, inOrder_of_placed? h⟩

end StreamSource.Toml
