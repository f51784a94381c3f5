import Mathlib
import Listing.Proofs.Paint.Matching

namespace Listing.Span

/-- The brackets that are open behind some tokens, innermost first, when those on the stack are open
before them. -/
def opened (stack : List (Text × Nat)) (n : Nat) : List Token → List (Text × Nat)
  | [] => stack
  | .opening name _ :: ts => opened ((name, n) :: stack) (n + 1) ts
  | .closing :: ts => opened stack.tail (n + 1) ts
  | .glyph _ :: ts => opened stack (n + 1) ts
  | .escaped _ :: ts => opened stack (n + 1) ts

/-- At place `m` there is an opening bracket that has no partner before place `n`. -/
def Pending (ts : List Token) (spans : List Span) (n m : Nat) : Prop :=
  m < n ∧ (∃ name offset, ts[m]? = some (.opening name offset)) ∧
    ∀ s ∈ spans, s.start = m → n ≤ s.stop

/-- Each closing bracket is paired with the nearest pending bracket before it, if there is one. -/
def IsMatching (ts : List Token) (spans : List Span) : Prop :=
  ∀ s : Span, s ∈ spans ↔ ts[s.stop]? = some .closing ∧
    (∃ offset, ts[s.start]? = some (.opening s.name offset)) ∧
    IsGreatest {m | Pending ts spans s.stop m} s.start

section Append

variable (stack : List (Text × Nat)) (n : Nat) (before after : List Token)

theorem opened_append :
    opened stack n (before ++ after) =
      opened (opened stack n before) (n + before.length) after := by
  induction before generalizing stack n with
  | nil => rfl
  | cons tok before ih =>
    rw [List.length_cons, Nat.add_comm before.length, ← Nat.add_assoc]
    cases tok with
    | glyph c | escaped c | opening name offset | closing => exact ih _ (n + 1)

theorem matching_append :
    matching stack n (before ++ after) = matching stack n before ++
      matching (opened stack n before) (n + before.length) after := by
  induction before generalizing stack n with
  | nil => rfl
  | cons tok before ih =>
    rw [List.length_cons, Nat.add_comm before.length, ← Nat.add_assoc]
    cases tok with
    | glyph c | escaped c | opening name offset => exact ih _ (n + 1)
    | closing =>
      cases stack with
      | nil => exact ih [] (n + 1)
      | cons e stack => exact congrArg (_ :: ·) (ih stack (n + 1))

end Append

section Snoc

variable {ts : List Token} {tok : Token} {spans spans' : List Span} {n m : Nat}

theorem pending_congr (h : ∀ s : Span, s.stop < n → (s ∈ spans ↔ s ∈ spans')) :
    Pending ts spans n m ↔ Pending ts spans' n m := by
  have himp {spans spans' : List Span} (h : ∀ s : Span, s.stop < n → (s ∈ spans ↔ s ∈ spans'))
      (hm : Pending ts spans n m) : Pending ts spans' n m := by
    obtain ⟨hlt, hopening, hpartner⟩ := hm
    refine ⟨hlt, hopening, fun s hs hstart => ?_⟩
    by_contra hstop
    exact hstop (hpartner s ((h s (Nat.lt_of_not_le hstop)).2 hs) hstart)
  exact ⟨himp h, himp fun s hs => (h s hs).symm⟩

theorem pending_snoc (hn : n ≤ ts.length) :
    Pending (ts ++ [tok]) spans n m ↔ Pending ts spans n m := by
  apply and_congr_right
  intro hm
  rw [List.getElem?_append_left (Nat.lt_of_lt_of_le hm hn)]

theorem IsMatching.stop_lt (h : IsMatching ts spans) {s : Span} (hs : s ∈ spans) :
    s.stop < ts.length :=
  (List.getElem?_eq_some_iff.1 ((h s).1 hs).1).1

theorem IsMatching.start_lt (h : IsMatching ts spans) {s : Span} (hs : s ∈ spans) :
    s.start < s.stop :=
  ((h s).1 hs).2.2.1.1

theorem IsMatching.snoc (h : IsMatching ts spans) {ended : List Span}
    (hended : ∀ s : Span, s ∈ ended ↔ s.stop = ts.length ∧ tok = .closing ∧
      (∃ offset, ts[s.start]? = some (.opening s.name offset)) ∧
      IsGreatest {m | Pending ts spans ts.length m} s.start) :
    IsMatching (ts ++ [tok]) (spans ++ ended) := by
  intro s
  have hold (x : Span) (hx : x.stop < ts.length) : x ∈ spans ++ ended ↔ x ∈ spans := by
    rw [List.mem_append, or_iff_left fun hnew => Nat.ne_of_lt hx ((hended x).1 hnew).1]
  have hpending (hs : s.stop ≤ ts.length) :
      {m | Pending (ts ++ [tok]) (spans ++ ended) s.stop m} = {m | Pending ts spans s.stop m} := by
    ext m
    exact (pending_snoc hs).trans
      (pending_congr fun x hx => hold x (Nat.lt_of_lt_of_le hx hs))
  have hopening (hs : s.stop ≤ ts.length) :
      ((∃ offset, (ts ++ [tok])[s.start]? = some (.opening s.name offset)) ∧
        IsGreatest {m | Pending (ts ++ [tok]) (spans ++ ended) s.stop m} s.start) ↔
      (∃ offset, ts[s.start]? = some (.opening s.name offset)) ∧
        IsGreatest {m | Pending ts spans s.stop m} s.start := by
    rw [hpending hs]
    apply and_congr_left
    intro hgreatest
    have hlt : s.start < s.stop := hgreatest.1.1
    rw [List.getElem?_append_left (Nat.lt_of_lt_of_le hlt hs)]
  obtain hlt | heq | hgt := Nat.lt_trichotomy s.stop ts.length
  · rw [hold s hlt, h s, hopening (Nat.le_of_lt hlt), List.getElem?_append_left hlt]
  · have hnot : s ∉ spans := fun hs => Nat.ne_of_lt (h.stop_lt hs) heq
    rw [hopening (Nat.le_of_eq heq), List.mem_append, or_iff_right hnot, hended s, heq,
      List.getElem?_concat_length, Option.some.injEq, and_iff_right rfl]
  · have hnone : (ts ++ [tok])[s.stop]? = none := by
      rw [List.getElem?_eq_none_iff, List.length_append, List.length_singleton]
      exact hgt
    rw [hnone, List.mem_append, h s, hended s, List.getElem?_eq_none (Nat.le_of_lt hgt)]
    simp [Nat.ne_of_gt hgt]

end Snoc

/-- What is found in some tokens: the pairs, and the brackets that are open behind them. -/
structure Found (ts : List Token) (spans : List Span) (stack : List (Text × Nat)) : Prop where
  isMatching : IsMatching ts spans
  mem_stack : ∀ e, e ∈ stack ↔
    (∃ offset, ts[e.2]? = some (.opening e.1 offset)) ∧ ∀ s ∈ spans, s.start ≠ e.2
  sorted : stack.Pairwise fun a b => b.2 < a.2

section Found

variable {ts : List Token} {tok : Token} {spans : List Span} {stack : List (Text × Nat)}
  {e : Text × Nat}

theorem found_nil : Found [] [] [] := by
  constructor
  · intro s
    simp
  · simp
  · exact .nil

theorem Found.lt_length (h : Found ts spans stack) (he : e ∈ stack) : e.2 < ts.length := by
  obtain ⟨⟨offset, hopening⟩, -⟩ := (h.mem_stack e).1 he
  exact (List.getElem?_eq_some_iff.1 hopening).1

/-- What is pending behind the tokens is on the stack. -/
theorem Found.pending_iff (h : Found ts spans stack) {m : Nat} :
    Pending ts spans ts.length m ↔ ∃ e ∈ stack, e.2 = m := by
  constructor
  · rintro ⟨-, ⟨name, offset, hopening⟩, hpartner⟩
    refine ⟨(name, m), (h.mem_stack _).2 ⟨⟨offset, hopening⟩, fun s hs hstart => ?_⟩, rfl⟩
    exact Nat.not_le_of_lt (h.isMatching.stop_lt hs) (hpartner s hs hstart)
  · rintro ⟨e, he, rfl⟩
    obtain ⟨⟨offset, hopening⟩, hunpaired⟩ := (h.mem_stack e).1 he
    exact ⟨h.lt_length he, ⟨e.1, offset, hopening⟩, fun s hs hstart =>
      absurd hstart (hunpaired s hs)⟩

theorem Found.isGreatest (h : Found ts spans (e :: stack)) :
    IsGreatest {m | Pending ts spans ts.length m} e.2 := by
  constructor
  · exact h.pending_iff.2 ⟨e, List.mem_cons_self, rfl⟩
  · intro m hm
    obtain ⟨x, hx, rfl⟩ := h.pending_iff.1 hm
    obtain rfl | hx := List.mem_cons.1 hx
    · exact Nat.le_refl _
    · exact Nat.le_of_lt ((List.pairwise_cons.1 h.sorted).1 x hx)

theorem Found.mem_stack_snoc (h : Found ts spans stack)
    (htok : ∀ name offset, tok ≠ .opening name offset) (e : Text × Nat) :
    e ∈ stack ↔ (∃ offset, (ts ++ [tok])[e.2]? = some (.opening e.1 offset)) ∧
      ∀ s ∈ spans, s.start ≠ e.2 := by
  rw [h.mem_stack e]
  apply and_congr_left'
  apply exists_congr
  intro offset
  obtain hlt | heq | hgt := Nat.lt_trichotomy e.2 ts.length
  · rw [List.getElem?_append_left hlt]
  · rw [heq, List.getElem?_concat_length, List.getElem?_eq_none (Nat.le_refl _)]
    simp [htok e.1 offset]
  · rw [List.getElem?_eq_none (Nat.le_of_lt hgt), List.getElem?_eq_none (by simpa using hgt)]

theorem Found.skip (h : Found ts spans stack) (hopening : ∀ name offset, tok ≠ .opening name offset)
    (hclosing : tok ≠ .closing) : Found (ts ++ [tok]) spans stack := by
  have hmatching : IsMatching (ts ++ [tok]) (spans ++ []) :=
    h.isMatching.snoc (by simp [hclosing])
  rw [List.append_nil] at hmatching
  exact ⟨hmatching, h.mem_stack_snoc hopening, h.sorted⟩

theorem Found.enter (h : Found ts spans stack) (name : Text) (offset : Nat) :
    Found (ts ++ [.opening name offset]) spans ((name, ts.length) :: stack) := by
  have hmatching : IsMatching (ts ++ [.opening name offset]) (spans ++ []) :=
    h.isMatching.snoc (by simp)
  rw [List.append_nil] at hmatching
  refine ⟨hmatching, ?_, List.pairwise_cons.2 ⟨fun e he => h.lt_length he, h.sorted⟩⟩
  intro e
  obtain hlt | heq | hgt := Nat.lt_trichotomy e.2 ts.length
  · have hne : e ≠ (name, ts.length) := fun he => Nat.ne_of_lt hlt (congrArg Prod.snd he)
    rw [List.mem_cons, or_iff_right hne, h.mem_stack e, List.getElem?_append_left hlt]
  · -- No pair reaches the place of the new bracket.
    have hunpaired : ∀ s ∈ spans, s.start ≠ e.2 := fun s hs =>
      Nat.ne_of_lt (heq ▸ (h.isMatching.start_lt hs).trans (h.isMatching.stop_lt hs))
    have hstack : e ∉ stack := fun he => Nat.ne_of_lt (h.lt_length he) heq
    rw [List.mem_cons, or_iff_left hstack, and_iff_left hunpaired, heq,
      List.getElem?_concat_length]
    simp [Prod.ext_iff, heq, eq_comm]
  · have hne : e ≠ (name, ts.length) := fun he => Nat.ne_of_gt hgt (congrArg Prod.snd he)
    have hstack : e ∉ stack := fun he => Nat.lt_asymm (h.lt_length he) hgt
    rw [List.mem_cons, or_iff_right hne, List.getElem?_eq_none (by simpa using hgt)]
    simp [hstack]

theorem Found.stray (h : Found ts spans []) : Found (ts ++ [.closing]) spans [] := by
  have hmatching : IsMatching (ts ++ [.closing]) (spans ++ []) := by
    refine h.isMatching.snoc fun s => iff_of_false (by simp) ?_
    rintro ⟨-, -, -, hgreatest⟩
    obtain ⟨e, he, -⟩ := h.pending_iff.1 hgreatest.1
    cases he
  rw [List.append_nil] at hmatching
  exact ⟨hmatching, h.mem_stack_snoc nofun, h.sorted⟩

theorem Found.leave (h : Found ts spans (e :: stack)) :
    Found (ts ++ [.closing]) (spans ++ [⟨e.1, e.2, ts.length⟩]) stack := by
  obtain ⟨⟨offset, hopening⟩, -⟩ := (h.mem_stack e).1 List.mem_cons_self
  obtain ⟨hinner, hsorted⟩ := List.pairwise_cons.1 h.sorted
  refine ⟨h.isMatching.snoc fun s => ?_, fun x => ?_, hsorted⟩
  · rw [List.mem_singleton]
    constructor
    · rintro rfl
      exact ⟨rfl, rfl, ⟨offset, hopening⟩, h.isGreatest⟩
    · rintro ⟨hstop, -, ⟨offset', hopening'⟩, hgreatest⟩
      have hstart := hgreatest.unique h.isGreatest
      rw [hstart, hopening] at hopening'
      cases s
      cases hopening'
      exact congrArg₂ (Span.mk e.1) hstart hstop
  · -- The bracket that has its partner now is the only one with its place.
    have hplace : x ∈ stack ↔ x ∈ e :: stack ∧ e.2 ≠ x.2 := by
      rw [List.mem_cons]
      constructor
      · intro hx
        exact ⟨.inr hx, Nat.ne_of_gt (hinner x hx)⟩
      · rintro ⟨rfl | hx, hne⟩
        · exact absurd rfl hne
        · exact hx
    have hclosing : ∀ name offset, Token.closing ≠ .opening name offset := nofun
    rw [hplace, h.mem_stack_snoc hclosing, and_assoc, List.forall_mem_append,
      List.forall_mem_singleton]

theorem found_ofTokens (ts : List Token) : Found ts (ofTokens ts) (opened [] 0 ts) := by
  induction ts using List.reverseRecOn with
  | nil => exact found_nil
  | append_singleton ts tok ih =>
    rw [ofTokens, matching_append, opened_append, Nat.zero_add]
    rw [ofTokens] at ih
    generalize opened [] 0 ts = stack at ih
    cases tok with
    | glyph c | escaped c =>
      rw [matching, matching, List.append_nil]
      exact ih.skip (by simp) (by simp)
    | opening name offset =>
      rw [matching, matching, List.append_nil]
      exact ih.enter name offset
    | closing =>
      cases stack with
      | nil =>
        rw [matching, matching, List.append_nil]
        exact ih.stray
      | cons e stack => exact ih.leave

end Found

section Pairs

variable {ts : List Token} {spans spans' : List Span}

theorem isMatching_congr (h : ∀ s, s ∈ spans ↔ s ∈ spans') :
    IsMatching ts spans ↔ IsMatching ts spans' := by
  have hpending (n : Nat) : {m | Pending ts spans n m} = {m | Pending ts spans' n m} :=
    Set.ext fun m => pending_congr fun s _ => h s
  unfold IsMatching
  simp only [h, hpending]

theorem IsMatching.mem_iff (h : IsMatching ts spans) (h' : IsMatching ts spans') (s : Span) :
    s ∈ spans ↔ s ∈ spans' := by
  induction hstop : s.stop using Nat.strongRecOn generalizing s with
  | ind n ih =>
    have hpending : {m | Pending ts spans s.stop m} = {m | Pending ts spans' s.stop m} :=
      Set.ext fun m => pending_congr fun x hx => ih x.stop (hstop ▸ hx) x rfl
    rw [h s, h' s, hpending]

theorem isMatching_iff : IsMatching ts spans ↔ ∀ s, s ∈ spans ↔ s ∈ ofTokens ts :=
  ⟨fun h s => h.mem_iff (found_ofTokens ts).isMatching s,
    fun h => (isMatching_congr h).2 (found_ofTokens ts).isMatching⟩

end Pairs

/-- The spans that are open in front of a place, innermost first. -/
def openAt (spans : List Span) (n : Nat) : List Span :=
  spans.filter fun s => decide (s.start < n ∧ n ≤ s.stop)

def Unpaired (ts : List Token) (n : Nat) : Prop :=
  (∃ name offset, ts[n]? = some (.opening name offset)) ∧ (∀ s ∈ ofTokens ts, s.start ≠ n) ∨
    ts[n]? = some .closing ∧ ∀ s ∈ ofTokens ts, s.stop ≠ n

section OpenAt

variable {ts before after : List Token} {s : Span} {n : Nat}

theorem mem_openAt {spans : List Span} :
    s ∈ openAt spans n ↔ s ∈ spans ∧ s.start < n ∧ n ≤ s.stop := by
  rw [openAt, List.mem_filter, decide_eq_true_eq]

theorem openAt_append (spans spans' : List Span) (n : Nat) :
    openAt (spans ++ spans') n = openAt spans n ++ openAt spans' n :=
  List.filter_append _ _

theorem openAt_past {spans : List Span} (h : ∀ s ∈ spans, s.stop < n) : openAt spans n = [] := by
  apply List.filter_eq_nil_iff.2
  intro s hs
  have hlt := h s hs
  simp only [decide_eq_true_eq]
  omega

theorem ofTokens_append (before after : List Token) :
    ofTokens (before ++ after) =
      ofTokens before ++ matching (opened [] 0 before) before.length after := by
  rw [ofTokens, matching_append, Nat.zero_add, ofTokens]

/-- The open spans are those on the stack that will be closed. -/
theorem map_openAt (before after : List Token) :
    (openAt (ofTokens (before ++ after)) before.length).map (fun s => (s.name, s.start)) =
      (opened [] 0 before).take (closed after) := by
  have hfound := found_ofTokens before
  have hpast : openAt (ofTokens before) before.length = [] :=
    openAt_past fun s hs => hfound.isMatching.stop_lt hs
  have hnow : openAt (matching (opened [] 0 before) before.length after) before.length =
      (matching (opened [] 0 before) before.length after).filter
        fun s => decide (s.start < before.length) := by
    apply List.filter_congr
    intro s hs
    simp [le_stop hs]
  have hbelow : ∀ e ∈ (opened [] 0 before).take (closed after), e.2 < before.length :=
    fun e he => hfound.lt_length (List.mem_of_mem_take he)
  rw [ofTokens_append, openAt_append, hpast, List.nil_append, hnow,
    filter_matching (Nat.le_refl _), List.filter_eq_self]
  simpa using hbelow

theorem openAt_sorted (before after : List Token) :
    (openAt (ofTokens (before ++ after)) before.length).Pairwise fun a b => b.start < a.start := by
  have hstack := (found_ofTokens before).sorted.sublist (List.take_sublist (closed after) _)
  rw [← map_openAt before after, List.pairwise_map] at hstack
  exact hstack

theorem openAt_eq_nil (hclosed : (opened [] 0 before).take (closed after) = []) :
    openAt (ofTokens (before ++ after)) before.length = [] := by
  rw [← map_openAt, List.map_eq_nil_iff] at hclosed
  exact hclosed

theorem matching_sorted (stack : List (Text × Nat)) (n : Nat) (ts : List Token) :
    (matching stack n ts).Pairwise fun a b => a.stop < b.stop := by
  induction ts generalizing stack n with
  | nil => exact .nil
  | cons tok ts ih =>
    cases tok with
    | glyph c | escaped c | opening name offset => exact ih _ (n + 1)
    | closing =>
      cases stack with
      | nil => exact ih [] (n + 1)
      | cons e stack => exact List.pairwise_cons.2 ⟨fun s hs => le_stop hs, ih stack (n + 1)⟩

theorem openAt_stop (hs : s ∈ ofTokens ts) :
    openAt (ofTokens ts) s.stop = s :: openAt (ofTokens ts) (s.stop + 1) := by
  have hmatching := (found_ofTokens ts).isMatching
  have hstart : ∀ x ∈ ofTokens ts, x.start ≠ s.stop := by
    intro x hx heq
    obtain ⟨offset, hopening⟩ := ((hmatching x).1 hx).2.1
    rw [heq, ((hmatching s).1 hs).1] at hopening
    cases hopening
  have hlt := hmatching.start_lt hs
  have hsorted := matching_sorted [] 0 ts
  rw [← ofTokens] at hsorted
  obtain ⟨ended, later, heq⟩ := List.append_of_mem hs
  rw [heq] at hstart hsorted ⊢
  obtain ⟨-, hlater, hended⟩ := List.pairwise_append.1 hsorted
  have hnone (n : Nat) (hn : s.stop ≤ n) : openAt ended n = [] :=
    openAt_past fun x hx => Nat.lt_of_lt_of_le (hended x hx s List.mem_cons_self) hn
  have hsame : openAt later s.stop = openAt later (s.stop + 1) := by
    apply List.filter_congr
    intro x hx
    have hstop := (List.pairwise_cons.1 hlater).1 x hx
    have hne := hstart x (List.mem_append_right _ (List.mem_cons_of_mem _ hx))
    rw [decide_eq_decide]
    omega
  have hopen : openAt (s :: later) s.stop = s :: openAt later s.stop :=
    List.filter_cons_of_pos (by simpa using hlt)
  have hclosed : openAt (s :: later) (s.stop + 1) = openAt later (s.stop + 1) :=
    List.filter_cons_of_neg (by simp)
  rw [openAt_append, openAt_append, hnone _ (Nat.le_refl _), hnone _ (Nat.le_succ _), hopen,
    hclosed, hsame]
  rfl

theorem closes_iff_paired (before : List Token) (name : Text) (offset : Nat) (after : List Token) :
    Stroke.closes 0 after = true ↔
      ∃ s ∈ ofTokens (before ++ .opening name offset :: after), s.start = before.length := by
  have hsplit : before ++ .opening name offset :: after =
      (before ++ [.opening name offset]) ++ after := by simp
  have hmap := map_openAt (before ++ [.opening name offset]) after
  rw [← hsplit, opened_append, Nat.zero_add, List.length_append, List.length_singleton] at hmap
  rw [closes_eq, decide_eq_true_eq]
  constructor
  · intro hclosed
    obtain ⟨k, hk⟩ := Nat.exists_eq_add_one.2 hclosed
    have hmem : (name, before.length) ∈ (openAt (ofTokens (before ++ .opening name offset :: after))
        (before.length + 1)).map fun s => (s.name, s.start) := by
      rw [hmap, hk]
      exact List.mem_cons_self
    obtain ⟨s, hs, heq⟩ := List.mem_map.1 hmem
    exact ⟨s, (mem_openAt.1 hs).1, congrArg Prod.snd heq⟩
  · rintro ⟨s, hs, hstart⟩
    by_contra hclosed
    have hzero : closed after = 0 := by omega
    rw [hzero, List.take_zero, List.map_eq_nil_iff] at hmap
    have hlt := (found_ofTokens _).isMatching.start_lt hs
    have hmem := mem_openAt.2 ⟨hs, Nat.lt_succ_of_le (Nat.le_of_eq hstart), hstart ▸ hlt⟩
    rw [hmap] at hmem
    cases hmem

theorem openAt_opening {name : Text} {offset : Nat} (h : ¬Stroke.closes 0 after = true) :
    openAt (ofTokens (before ++ .opening name offset :: after)) before.length = [] := by
  rw [closes_eq, decide_eq_true_eq] at h
  have hzero : closed (.opening name offset :: after) = 0 := by
    rw [closed]
    omega
  exact openAt_eq_nil (by rw [hzero, List.take_zero])

theorem openAt_closing (h : ∀ s ∈ ofTokens (before ++ .closing :: after), s.stop ≠ before.length) :
    openAt (ofTokens (before ++ .closing :: after)) before.length = [] := by
  have hstack : opened [] 0 before = [] := by
    cases hopened : opened [] 0 before with
    | nil => rfl
    | cons e stack =>
      refine absurd rfl (h ⟨e.1, e.2, before.length⟩ ?_)
      rw [ofTokens_append, hopened]
      exact List.mem_append_right _ List.mem_cons_self
  exact openAt_eq_nil (by rw [hstack, List.take_nil])

theorem openAt_unpaired (h : Unpaired ts n) : openAt (ofTokens ts) n = [] := by
  have hn : n < ts.length := by
    obtain ⟨⟨name, offset, htok⟩, -⟩ | ⟨htok, -⟩ := h
    · exact (List.getElem?_eq_some_iff.1 htok).1
    · exact (List.getElem?_eq_some_iff.1 htok).1
  obtain ⟨before, tok, after, rfl, rfl⟩ :
      ∃ before tok after, ts = before ++ tok :: after ∧ before.length = n :=
    ⟨ts.take n, ts[n], ts.drop (n + 1), by rw [List.getElem_cons_drop, List.take_append_drop],
      List.length_take_of_le (Nat.le_of_lt hn)⟩
  have htok : (before ++ tok :: after)[before.length]? = some tok := by simp
  rw [Unpaired, htok] at h
  obtain ⟨⟨name, offset, heq⟩, hunpaired⟩ | ⟨heq, hunpaired⟩ := h
  · obtain rfl := Option.some.inj heq
    refine openAt_opening fun hcloses => ?_
    obtain ⟨s, hs, hstart⟩ := (closes_iff_paired before name offset after).1 hcloses
    exact hunpaired s hs hstart
  · obtain rfl := Option.some.inj heq
    exact openAt_closing hunpaired

end OpenAt

end Listing.Span
