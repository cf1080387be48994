import StreamSource.Hoster.Step
import StreamSource.Proofs.Protocol.Calls

/-! What the calls on a hoster come to as calls on its protocols. Every step makes a list of
calls, each on the protocol at an index, and leaves the protocols as these calls leave them; the
protocols that a step does not call stay as they are. -/

namespace StreamSource.Hoster

open ByteStream Protocol

variable {σ α : Type} [Protocol σ]

/-! ### Calls in turn -/

/-- Calls made in turn, each on the protocol at an index. -/
def perform (ps : List σ) (calls : List (Nat × StreamStep)) : List σ :=
  calls.foldl (fun ps c => ps.modify c.1 fun p => (ByteStream.step p c.2).2) ps

/-- Those of the calls that are made on the protocol at index `i`. -/
def callsOn (i : Nat) (calls : List (Nat × StreamStep)) : List StreamStep :=
  (calls.filter fun c => c.1 = i).map (·.2)

@[simp] theorem perform_nil (ps : List σ) : perform ps [] = ps := rfl

@[simp] theorem perform_cons (ps : List σ) (c : Nat × StreamStep)
    (calls : List (Nat × StreamStep)) :
    perform ps (c :: calls) =
      perform (ps.modify c.1 fun p => (ByteStream.step p c.2).2) calls := rfl

theorem perform_append (ps : List σ) (calls more : List (Nat × StreamStep)) :
    perform ps (calls ++ more) = perform (perform ps calls) more :=
  List.foldl_append

theorem length_perform (ps : List σ) (calls : List (Nat × StreamStep)) :
    (perform ps calls).length = ps.length := by
  induction calls generalizing ps with
  | nil => rfl
  | cons c calls ih => rw [perform_cons, ih, List.length_modify]

/-- Each protocol sees the calls made on it, in their order, and no others. -/
theorem getElem?_perform (ps : List σ) (calls : List (Nat × StreamStep)) (i : Nat) :
    (perform ps calls)[i]? = ps[i]?.map fun p => ByteStream.after p (callsOn i calls) := by
  induction calls generalizing ps with
  | nil => simp [callsOn]
  | cons c calls ih =>
    rw [perform_cons, ih]
    by_cases h : c.1 = i
    · simp [callsOn, h, Function.comp_def]
    · simp [callsOn, h]

/-- Calls on the later protocols leave the first alone. -/
theorem perform_shift (p : σ) (ps : List σ) (calls : List (Nat × StreamStep)) :
    perform (p :: ps) (calls.map fun c => (c.1 + 1, c.2)) = p :: perform ps calls := by
  induction calls generalizing ps with
  | nil => rfl
  | cons c calls ih => rw [List.map_cons, perform_cons, perform_cons, List.modify_succ_cons, ih]

theorem mem_perform {ps : List σ} {calls : List (Nat × StreamStep)} {q : σ}
    (hq : q ∈ perform ps calls) : ∃ p ∈ ps, ∃ made, q = ByteStream.after p made := by
  obtain ⟨i, hi⟩ := List.mem_iff_getElem?.1 hq
  rw [getElem?_perform] at hi
  obtain ⟨p, hp, rfl⟩ := Option.map_eq_some_iff.1 hi
  exact ⟨p, List.mem_of_getElem? hp, _, rfl⟩

/-- What any calls keep of one protocol they keep of all. -/
theorem forall_perform {P : σ → Prop} (hP : ∀ p made, P p → P (ByteStream.after p made))
    {ps : List σ} (hps : ∀ p ∈ ps, P p) (calls : List (Nat × StreamStep)) :
    ∀ q ∈ perform ps calls, P q := by
  intro q hq
  obtain ⟨p, hp, made, rfl⟩ := mem_perform hq
  exact hP p made (hps p hp)

theorem callsOn_single (i j : Nat) (c : StreamStep) :
    callsOn j [(i, c)] = if i = j then [c] else [] := by
  unfold callsOn
  by_cases h : i = j <;> simp [h]

/-! ### Offering a URL -/

/-- The indices of the protocols that support a URL. -/
def supporting (url : String) (ps : List σ) : List Nat :=
  (List.range ps.length).filter fun i => ps[i]?.any (supports · url)

/-- Whether a protocol supports a URL and opens it. -/
def opens (url : String) (p : σ) : Bool := supports p url && (ByteStream.openUrl url p).1.isOk

/-- Whether the protocol at index `i` opens a URL. -/
def opensAt (url : String) (ps : List σ) (i : Nat) : Bool :=
  ps[i]?.any fun p => (ByteStream.openUrl url p).1.isOk

/-- The error with which the protocol at index `i` refuses to open a URL. -/
def refusalAt? (url : String) (ps : List σ) (i : Nat) : Option Error :=
  ps[i]?.bind fun p =>
    match (ByteStream.openUrl url p).1 with
    | .ok _ => none
    | .error e => some e

/-- The first of the protocols that support a URL to open it. -/
def opener? (url : String) (ps : List σ) : Option Nat := (supporting url ps).find? (opensAt url ps)

/-- The supporting protocols up to and including the first that opens the URL. -/
def tried (url : String) (ps : List σ) : List Nat :=
  (supporting url ps).take ((supporting url ps).findIdx (opensAt url ps) + 1)

/-- The calls by which the URL is offered to the protocols. -/
def openings (url : String) (ps : List σ) : List (Nat × StreamStep) :=
  (tried url ps).map fun i => (i, .openUrl url)

theorem supporting_cons (url : String) (p : σ) (ps : List σ) :
    supporting url (p :: ps) =
      (if supports p url then [0] else []) ++ (supporting url ps).map (· + 1) := by
  unfold supporting
  rw [List.length_cons, List.range_succ_eq_map, List.filter_cons, List.filter_map]
  simp only [List.getElem?_cons_zero, Option.any_some]
  split <;> rfl

theorem mem_supporting {url : String} {ps : List σ} {i : Nat} :
    i ∈ supporting url ps ↔ ∃ p, ps[i]? = some p ∧ supports p url = true := by
  rw [supporting, List.mem_filter, List.mem_range, Option.any_eq_true]
  constructor
  · exact fun h => h.2
  · rintro ⟨p, hp, hs⟩
    exact ⟨(List.getElem?_eq_some_iff.1 hp).1, p, hp, hs⟩

theorem opensAt_iff {url : String} {ps : List σ} {i : Nat} :
    opensAt url ps i = true ↔
      ∃ p, ps[i]? = some p ∧ (ByteStream.openUrl url p).1.isOk = true :=
  Option.any_eq_true ..

theorem refusalAt?_eq_some_iff {url : String} {ps : List σ} {i : Nat} {e : Error} :
    refusalAt? url ps i = some e ↔
      ∃ p, ps[i]? = some p ∧ (ByteStream.openUrl url p).1 = .error e := by
  unfold refusalAt?
  rw [Option.bind_eq_some_iff]
  refine exists_congr fun p => and_congr_right fun _ => ?_
  cases (ByteStream.openUrl url p).1 <;> simp

/-- A supporting protocol that does not open a URL refuses it. -/
theorem exists_refusalAt? {url : String} {ps : List σ} {i : Nat} (hi : i ∈ supporting url ps)
    (ho : ¬ opensAt url ps i = true) : ∃ e, refusalAt? url ps i = some e := by
  obtain ⟨p, hp, -⟩ := mem_supporting.1 hi
  cases hr : (ByteStream.openUrl url p).1 with
  | ok u => exact absurd (by simp [opensAt, hp, hr]) ho
  | error e => exact ⟨e, refusalAt?_eq_some_iff.2 ⟨p, hp, hr⟩⟩

theorem opener?_cons (url : String) (p : σ) (ps : List σ) :
    opener? url (p :: ps) =
      if supports p url ∧ (ByteStream.openUrl url p).1.isOk then some 0
      else (opener? url ps).map (· + 1) := by
  have hshift : opensAt url (p :: ps) ∘ (· + 1) = opensAt url ps := rfl
  unfold opener?
  rw [supporting_cons, List.find?_append, List.find?_map, hshift]
  by_cases hs : supports p url = true
  · by_cases ho : (ByteStream.openUrl url p).1.isOk = true
    · simp [hs, ho, opensAt]
    · simp [hs, ho, opensAt]
  · simp [hs]

/-- The opener is the first protocol that supports and opens the URL. -/
theorem opener?_eq_findIdx? (url : String) (ps : List σ) :
    opener? url ps = ps.findIdx? (opens url) := by
  induction ps with
  | nil => rfl
  | cons p ps ih =>
    rw [opener?_cons, List.findIdx?_cons, ih]
    simp only [opens, Bool.and_eq_true]

theorem tried_cons (url : String) (p : σ) (ps : List σ) :
    tried url (p :: ps) =
      if supports p url then
        0 :: if (ByteStream.openUrl url p).1.isOk then [] else (tried url ps).map (· + 1)
      else (tried url ps).map (· + 1) := by
  have hshift : opensAt url (p :: ps) ∘ (· + 1) = opensAt url ps := rfl
  unfold tried
  rw [supporting_cons]
  by_cases hs : supports p url = true
  · by_cases ho : (ByteStream.openUrl url p).1.isOk = true
    · simp [hs, ho, opensAt, List.findIdx_cons]
    · simp [hs, ho, opensAt, List.findIdx_cons, List.findIdx_map, hshift]
  · simp [hs, List.findIdx_map, hshift]

theorem offer_of_opens {url : String} {p : σ} (hs : supports p url = true)
    (ho : (ByteStream.openUrl url p).1.isOk = true) (ps : List σ) :
    offer url (p :: ps) = (.ok 0, (ByteStream.openUrl url p).2 :: ps) := by
  rw [offer, if_pos hs]
  split
  · rename_i h
    rw [h]
  · rename_i h
    simp [h] at ho

theorem offer_of_refuses {url : String} {p : σ} {e : Error} (hs : supports p url = true)
    (he : (ByteStream.openUrl url p).1 = .error e) (ps : List σ) :
    offer url (p :: ps) =
      (match (offer url ps).1 with
        | .ok i => .ok (i + 1)
        | .error last => .error (some (last.getD e)),
      (ByteStream.openUrl url p).2 :: (offer url ps).2) := by
  rw [offer, if_pos hs]
  split
  · rename_i h
    simp [h] at he
  · rename_i h
    rw [h] at he ⊢
    cases he
    split <;> rename_i h' <;> rw [h']

theorem offer_of_unsupported {url : String} {p : σ} (hs : ¬ supports p url = true)
    (ps : List σ) :
    offer url (p :: ps) =
      (match (offer url ps).1 with
        | .ok i => .ok (i + 1)
        | .error last => .error last,
      p :: (offer url ps).2) := by
  rw [offer, if_neg hs]
  split <;> rename_i h' <;> rw [h']

theorem offer_fst (url : String) (ps : List σ) :
    (offer url ps).1 =
      match opener? url ps with
      | some i => .ok i
      | none => .error ((supporting url ps).getLast?.bind (refusalAt? url ps)) := by
  induction ps with
  | nil => rfl
  | cons p ps ih =>
    have hshift : refusalAt? url (p :: ps) ∘ (· + 1) = refusalAt? url ps := rfl
    rw [opener?_cons, supporting_cons]
    by_cases hs : supports p url = true
    · cases ho : (ByteStream.openUrl url p).1 with
      | ok u =>
        rw [offer_of_opens hs (by simp [ho])]
        simp [hs]
      | error e =>
        rw [offer_of_refuses hs ho, ih]
        cases hopener : opener? url ps with
        | some i => simp
        | none =>
          cases hlast : (supporting url ps).getLast? with
          | none =>
            have hnone : supporting url ps = [] := List.getLast?_eq_none_iff.1 hlast
            simp [hs, hnone, refusalAt?, ho]
          | some i =>
            have hi : i ∈ supporting url ps := List.mem_of_getLast? hlast
            obtain ⟨e', he'⟩ := exists_refusalAt? hi (List.find?_eq_none.1 hopener i hi)
            have hcons : refusalAt? url (p :: ps) (i + 1) = some e' := he'
            simp [hs, List.getLast?_cons, hlast, he', hcons]
    · rw [offer_of_unsupported hs, ih]
      cases opener? url ps with
      | some i => simp [hs]
      | none =>
        rw [if_neg fun h => hs h.1, if_neg hs, List.nil_append, List.getLast?_map, Option.bind_map,
          hshift]
        rfl

theorem perform_openings_shift (url : String) (p : σ) (ps : List σ) :
    perform (p :: ps) (((tried url ps).map (· + 1)).map fun i => (i, .openUrl url)) =
      p :: perform ps (openings url ps) := by
  rw [← perform_shift, openings, List.map_map, List.map_map]
  rfl

theorem offer_snd (url : String) (ps : List σ) :
    (offer url ps).2 = perform ps (openings url ps) := by
  induction ps with
  | nil => rfl
  | cons p ps ih =>
    rw [openings, tried_cons]
    by_cases hs : supports p url = true
    · rw [if_pos hs, List.map_cons, perform_cons]
      cases ho : (ByteStream.openUrl url p).1 with
      | ok u =>
        rw [offer_of_opens hs (by simp [ho])]
        rfl
      | error e =>
        rw [offer_of_refuses hs ho, ih]
        exact (perform_openings_shift url _ ps).symm
    · rw [offer_of_unsupported hs, ih, if_neg hs, perform_openings_shift]

theorem nodup_tried (url : String) (ps : List σ) : (tried url ps).Nodup :=
  (List.nodup_range.filter _).sublist (List.take_sublist _ _)

/-- Every protocol that is tried is called once. -/
theorem callsOn_openings (url : String) (ps : List σ) (i : Nat) :
    callsOn i (openings url ps) = if i ∈ tried url ps then [.openUrl url] else [] := by
  have hcalls (js : List Nat) (hjs : js.Nodup) :
      callsOn i (js.map fun j => (j, StreamStep.openUrl url)) =
        if i ∈ js then [.openUrl url] else [] := by
    induction js with
    | nil => rfl
    | cons j js ih =>
      obtain ⟨hj, hjs⟩ := List.nodup_cons.1 hjs
      have ih := ih hjs
      unfold callsOn at ih ⊢
      by_cases h : j = i
      · subst h
        simpa [hj] using ih
      · simpa [h, Ne.symm h] using ih
  exact hcalls _ (nodup_tried url ps)

/-- Among the tried protocols the one that opens the URL is the opener. -/
theorem opener?_eq_some_iff {url : String} {ps : List σ} {i : Nat} :
    opener? url ps = some i ↔ i ∈ tried url ps ∧ opensAt url ps i = true := by
  unfold opener? tried
  induction supporting url ps with
  | nil => simp
  | cons j js ih =>
    rw [List.find?_cons, List.findIdx_cons]
    by_cases hj : opensAt url ps j = true
    · simp only [hj, cond_true, Option.some.injEq, Nat.zero_add, List.take_succ_cons,
        List.take_zero, List.mem_singleton]
      constructor
      · rintro rfl
        exact ⟨rfl, hj⟩
      · exact fun h => h.1.symm
    · simp only [Bool.not_eq_true] at hj
      simp only [hj, cond_false, List.take_succ_cons, List.mem_cons]
      rw [ih]
      constructor
      · exact fun h => ⟨.inr h.1, h.2⟩
      · rintro ⟨rfl | hi, ho⟩
        · simp [hj] at ho
        · exact ⟨hi, ho⟩

/-- An offer of a URL is a call on the protocols that are tried and on no others. -/
theorem getElem?_perform_openings (url : String) (ps : List σ) (j : Nat) :
    (perform ps (openings url ps))[j]? = ps[j]?.map fun p =>
      if j ∈ tried url ps then (ByteStream.openUrl url p).2 else p := by
  rw [getElem?_perform]
  refine congrArg (Option.map · _) (funext fun p => ?_)
  rw [callsOn_openings]
  by_cases hj : j ∈ tried url ps <;> simp [hj]

/-! ### Steps -/

/-- A call on the active protocol, if there is one. -/
def onActive (h : Hoster σ) (c : StreamStep) : List (Nat × StreamStep) :=
  h.active.toList.map fun i => (i, c)

/-- The protocols once the active one was told to close. -/
def closed (h : Hoster σ) : List σ := perform h.protocols (h.onActive .close)

/-- The calls that a step makes on the protocols, in their order. -/
def calls (h : Hoster σ) : Step → List (Nat × StreamStep)
  | .stream (.openUrl url) => h.onActive .close ++ openings url h.closed
  | .stream (.read position length) => h.onActive (.read position length)
  | .stream (.seek position) => h.onActive (.seek position)
  | .stream .close => h.onActive .close
  | .active => []

/-- The protocol that is active after a step. -/
def nextActive (h : Hoster σ) : Step → Option Nat
  | .stream (.openUrl url) => opener? url h.closed
  | .stream (.read _ _) => h.active
  | .stream (.seek _) => h.active
  | .stream .close => none
  | .active => h.active

omit [Protocol σ] in
theorem onActive_of_active {h : Hoster σ} {i : Nat} (hactive : h.active = some i)
    (c : StreamStep) : h.onActive c = [(i, c)] := by
  rw [onActive, hactive]
  rfl

omit [Protocol σ] in
theorem onActive_of_none {h : Hoster σ} (hactive : h.active = none) (c : StreamStep) :
    h.onActive c = [] := by
  rw [onActive, hactive]
  rfl

/-- A call on the active protocol and on no other. -/
theorem getElem?_perform_onActive (h : Hoster σ) (c : StreamStep) (j : Nat) :
    (perform h.protocols (h.onActive c))[j]? =
      h.protocols[j]?.map fun p => if h.active = some j then (ByteStream.step p c).2 else p := by
  rw [getElem?_perform]
  refine congrArg (Option.map · _) (funext fun p => ?_)
  cases hactive : h.active with
  | none => simp [onActive_of_none hactive, callsOn]
  | some i =>
    rw [onActive_of_active hactive, callsOn_single]
    by_cases hij : i = j <;> simp [hij]

omit [Protocol σ] in
theorem call_fst (h : Hoster σ) (i : Nat) (f : σ → Outcome σ α) :
    (h.call i f).1 =
      match h.protocols[i]? with
      | some p => (f p).1
      | none => .error .noActiveProtocol := by
  unfold call
  cases h.protocols[i]? <;> rfl

theorem call_snd {f : σ → Outcome σ α} {c : StreamStep}
    (hf : ∀ p, (f p).2 = (ByteStream.step p c).2) (h : Hoster σ) (i : Nat) :
    (h.call i f).2 = ⟨perform h.protocols [(i, c)], h.active⟩ := by
  unfold call
  cases hp : h.protocols[i]? with
  | none =>
    have hi : h.protocols.length ≤ i := List.getElem?_eq_none_iff.1 hp
    rw [perform_cons, List.modify_eq_self hi, perform_nil]
  | some p =>
    have : Inhabited σ := ⟨p⟩
    rw [perform_cons, List.modify_eq_set, hp, perform_nil]
    simp [hf]

theorem close_snd (h : Hoster σ) : h.close.2 = ⟨h.closed, none⟩ := by
  obtain ⟨ps, active⟩ := h
  cases active with
  | none => rfl
  | some i => exact call_snd (c := .close) (fun _ => rfl) ⟨ps, none⟩ i

theorem openUrl_eq (url : String) (h : Hoster σ) :
    openUrl url h =
      match opener? url h.closed with
      | some i => (.ok (), ⟨perform h.closed (openings url h.closed), some i⟩)
      | none =>
        (.error (((supporting url h.closed).getLast?.bind (refusalAt? url h.closed)).getD
          (unsupported url)), ⟨perform h.closed (openings url h.closed), none⟩) := by
  have hfst := offer_fst url h.closed
  have hsnd := offer_snd url h.closed
  unfold openUrl
  rw [close_snd]
  cases hopener : opener? url h.closed with
  | some i =>
    rw [hopener] at hfst
    split <;> simp_all
  | none =>
    rw [hopener] at hfst
    split <;> simp_all

theorem callActive_snd {f : σ → Outcome σ α} {c : StreamStep}
    (hf : ∀ p, (f p).2 = (ByteStream.step p c).2) (h : Hoster σ) :
    (h.callActive f).2 = ⟨perform h.protocols (h.onActive c), h.active⟩ := by
  obtain ⟨ps, active⟩ := h
  cases active with
  | none => rfl
  | some i => exact call_snd hf ⟨ps, some i⟩ i

omit [Protocol σ] in
theorem callActive_fst (h : Hoster σ) (f : σ → Outcome σ α) :
    (h.callActive f).1 =
      match h.activeProtocol? with
      | some p => (f p).1
      | none => .error .noActiveProtocol := by
  unfold callActive activeProtocol?
  cases h.active with
  | none => rfl
  | some i => exact call_fst h i f

omit [Protocol σ] in
theorem callActive_of_none {h : Hoster σ} (hactive : h.active = none) (f : σ → Outcome σ α) :
    h.callActive f = (.error .noActiveProtocol, h) := by
  unfold callActive
  rw [hactive]

theorem close_fst {h : Hoster σ} (hactive : h.active.isSome = true) :
    h.close.1 =
      match h.activeProtocol? with
      | some p => (ByteStream.close p).1
      | none => .error .noActiveProtocol := by
  obtain ⟨i, hi⟩ := Option.isSome_iff_exists.1 hactive
  unfold close activeProtocol?
  rw [hi]
  exact call_fst { h with active := none } i ByteStream.close

omit [Protocol σ] in
theorem activeProtocol?_eq {h : Hoster σ} {i : Nat} {p : σ} (hactive : h.active = some i)
    (hp : h.protocols[i]? = some p) : h.activeProtocol? = some p := by
  rw [activeProtocol?, hactive, Option.bind_some, hp]

theorem isOk_openUrl (url : String) (h : Hoster σ) :
    (openUrl url h).1.isOk = (h.closed.find? (opens url)).isSome := by
  rw [List.isSome_find?, ← List.findIdx?_isSome, ← opener?_eq_findIdx?, openUrl_eq]
  cases opener? url h.closed <;> rfl

/-- The opener is active after it opened the URL. -/
theorem activeProtocol?_openUrl (url : String) (h : Hoster σ) :
    (openUrl url h).2.activeProtocol? =
      (h.closed.find? (opens url)).map fun p => (ByteStream.openUrl url p).2 := by
  rw [List.find?_eq_bind_findIdx?_getElem?, ← opener?_eq_findIdx?, openUrl_eq]
  cases hopener : opener? url h.closed with
  | none => rfl
  | some i =>
    have htried : i ∈ tried url h.closed := (opener?_eq_some_iff.1 hopener).1
    show (perform h.closed (openings url h.closed))[i]? = _
    rw [getElem?_perform_openings, Option.bind_some]
    simp only [if_pos htried]

theorem close_of_none {h : Hoster σ} (hactive : h.active = none) : h.close = (.ok (), h) := by
  unfold close
  rw [hactive]

/-- What a step does: it makes its calls, and an opening or a closing changes which protocol
is active. -/
theorem step_snd (h : Hoster σ) (s : Step) :
    (h.step s).2 = ⟨perform h.protocols (h.calls s), h.nextActive s⟩ := by
  cases s with
  | active => rfl
  | stream c =>
    cases c with
    | openUrl url =>
      show (openUrl url h).2 = _
      rw [openUrl_eq, calls, nextActive, perform_append]
      cases opener? url h.closed <;> rfl
    | read position length => exact callActive_snd (fun _ => rfl) h
    | seek position => exact callActive_snd (fun _ => rfl) h
    | close => exact close_snd h

theorem forall_step {P : σ → Prop} (hP : ∀ p made, P p → P (ByteStream.after p made))
    {h : Hoster σ} (hps : ∀ p ∈ h.protocols, P p) (s : Step) :
    ∀ q ∈ (h.step s).2.protocols, P q := by
  rw [step_snd]
  exact forall_perform hP hps _

/-- A run makes calls on the protocols and does nothing else to them. -/
theorem exists_after_protocols (h : Hoster σ) (steps : List Step) :
    ∃ calls, (h.after steps).protocols = perform h.protocols calls := by
  induction steps generalizing h with
  | nil => exact ⟨[], rfl⟩
  | cons s steps ih =>
    obtain ⟨calls, hcalls⟩ := ih (h.step s).2
    refine ⟨h.calls s ++ calls, ?_⟩
    rw [perform_append]
    rw [step_snd] at hcalls
    exact (congrArg (fun h' => (Hoster.after h' steps).protocols) (step_snd h s)).trans hcalls

end StreamSource.Hoster
