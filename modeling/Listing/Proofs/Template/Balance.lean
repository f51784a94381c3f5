import Mathlib
import Listing.Proofs.Text.Ascii
import Listing.Template.Delimiter

namespace Listing.Template

open Text

/-- The position of the delimiter that closes the one at a position of a text. -/
def closingAt? (opener closer : Char) (t : Text) (start : Nat) : Option Nat :=
  (closing opener closer 0 (t.splitBytes start).2.tail).map fun p => start + 1 + p.1.size

/-- The search on bytes from position `i` on, with a counter of the open delimiters. It fails at a
closer that stands where none is open. -/
def search (opener closer : UInt8) (i depth : Nat) : List UInt8 → Except Nat (Option Nat)
  | [] => .ok none
  | b :: bs =>
    if b = opener then search opener closer (i + 1) (depth + 1) bs
    else if b = closer then
      match depth with
      | 0 => .error i
      | 1 => .ok (some i)
      | depth + 2 => search opener closer (i + 1) (depth + 1) bs
    else search opener closer (i + 1) depth bs

/-- The bytes from `start` on, up to and with byte `i`, close as much as they open. -/
def Balanced (opener closer : Char) (t : Text) (start i : Nat) : Prop :=
  i < t.size ∧ (t.utf8.extract start (i + 1)).count closer.toUInt8 =
    (t.utf8.extract start (i + 1)).count opener.toUInt8

section Counter

variable {opener closer b : UInt8} {i n depth depth' : Nat} {bs : List UInt8}
  {r : Except Nat (Option Nat)}

theorem search_opener (i depth : Nat) (bs : List UInt8) :
    search opener closer i depth (opener :: bs) = search opener closer (i + 1) (depth + 1) bs := by
  rw [search.eq_def]
  exact if_pos rfl

theorem search_last (hne : opener ≠ closer) (i : Nat) (bs : List UInt8) :
    search opener closer i 1 (closer :: bs) = .ok (some i) := by
  rw [search.eq_def]
  simp [hne.symm]

theorem search_closer (hne : opener ≠ closer) (i depth : Nat) (bs : List UInt8) :
    search opener closer i (depth + 2) (closer :: bs) =
      search opener closer (i + 1) (depth + 1) bs := by
  rw [search.eq_def]
  simp [hne.symm]

theorem search_other (ho : b ≠ opener) (hc : b ≠ closer) (i depth : Nat) (bs : List UInt8) :
    search opener closer i depth (b :: bs) = search opener closer (i + 1) depth bs := by
  rw [search.eq_def]
  simp [ho, hc]

theorem search_append (hbs : ∀ b ∈ bs, b ≠ opener ∧ b ≠ closer) (i depth : Nat)
    (rest : List UInt8) :
    search opener closer i depth (bs ++ rest) =
      search opener closer (i + bs.length) depth rest := by
  induction bs generalizing i with
  | nil => rfl
  | cons b bs ih =>
    obtain ⟨⟨ho, hc⟩, hbs⟩ := List.forall_mem_cons.1 hbs
    rw [List.cons_append, search_other ho hc, ih hbs, List.length_cons, Nat.add_assoc,
      Nat.add_comm 1]

/-- Up to any of the first `n` bytes there are fewer closers than openers and `depth` more. -/
def StaysOpen (opener closer : UInt8) (depth : Nat) (bs : List UInt8) (n : Nat) : Prop :=
  ∀ m ≤ n, (bs.take m).count closer < (bs.take m).count opener + depth

/-- The search ends with the bytes, all of which stay open, or at the first byte up to which as much
is closed as is open. -/
def Ends (opener closer : UInt8) (i depth : Nat) (bs : List UInt8)
    (r : Except Nat (Option Nat)) : Prop :=
  (r = .ok none ∧ StaysOpen opener closer depth bs bs.length) ∨
    ∃ k < bs.length, r = .ok (some (i + k)) ∧ StaysOpen opener closer depth bs k ∧
      (bs.take (k + 1)).count closer = (bs.take (k + 1)).count opener + depth

theorem staysOpen_zero (hdepth : 0 < depth) : StaysOpen opener closer depth bs 0 := by
  intro m hm
  obtain rfl := Nat.le_zero.1 hm
  simpa using hdepth

theorem StaysOpen.congr {bs' : List UInt8} (h : StaysOpen opener closer depth bs n)
    (htake : bs'.take n = bs.take n) : StaysOpen opener closer depth bs' n := by
  intro m hm
  have hsame : bs'.take m = bs.take m := by
    rw [← Nat.min_eq_left hm, ← List.take_take, htake, List.take_take]
  rw [hsame]
  exact h m hm

theorem StaysOpen.cons (h : StaysOpen opener closer depth' bs n) (hdepth : 0 < depth)
    (hb : depth + (if b = opener then 1 else 0) = depth' + if b = closer then 1 else 0) :
    StaysOpen opener closer depth (b :: bs) (n + 1) := by
  intro m hm
  cases m with
  | zero => simpa using hdepth
  | succ m =>
    have hm := h m (Nat.le_of_succ_le_succ hm)
    simp only [List.take_succ_cons, List.count_cons, beq_iff_eq]
    omega

theorem Ends.cons (h : Ends opener closer (i + 1) depth' bs r) (hdepth : 0 < depth)
    (hb : depth + (if b = opener then 1 else 0) = depth' + if b = closer then 1 else 0) :
    Ends opener closer i depth (b :: bs) r := by
  obtain ⟨rfl, hopen⟩ | ⟨k, hk, rfl, hopen, hcount⟩ := h
  · exact .inl ⟨rfl, hopen.cons hdepth hb⟩
  · refine .inr ⟨k + 1, Nat.succ_lt_succ hk, by rw [Nat.add_right_comm, Nat.add_assoc],
      hopen.cons hdepth hb, ?_⟩
    simp only [List.take_succ_cons, List.count_cons, beq_iff_eq] at hcount ⊢
    omega

theorem Ends.eq_none_iff (h : Ends opener closer i depth bs r) :
    r = .ok none ↔ StaysOpen opener closer depth bs bs.length := by
  obtain ⟨rfl, hopen⟩ | ⟨k, hk, rfl, -, hcount⟩ := h
  · exact iff_of_true rfl hopen
  · exact iff_of_false nofun fun hopen => Nat.ne_of_lt (hopen (k + 1) hk) hcount

theorem Ends.eq_some_iff (h : Ends opener closer i depth bs r) {j : Nat} :
    r = .ok (some j) ↔ ∃ k < bs.length, j = i + k ∧ StaysOpen opener closer depth bs k ∧
      (bs.take (k + 1)).count closer = (bs.take (k + 1)).count opener + depth := by
  constructor
  · rintro rfl
    obtain ⟨hr, -⟩ | ⟨k, hk, hr, hopen, hcount⟩ := h
    · cases hr
    · cases hr
      exact ⟨k, hk, rfl, hopen, hcount⟩
  · rintro ⟨k, hk, rfl, hopen, hcount⟩
    obtain ⟨-, hall⟩ | ⟨k', hk', rfl, hopen', hcount'⟩ := h
    · exact absurd hcount (Nat.ne_of_lt (hall (k + 1) hk))
    · -- The bytes stay open up to the end of the search, so that there is only one end.
      have hle : k' ≤ k := Nat.le_of_not_lt fun hlt => Nat.ne_of_lt (hopen' (k + 1) hlt) hcount
      have hge : k ≤ k' := Nat.le_of_not_lt fun hlt => Nat.ne_of_lt (hopen (k' + 1) hlt) hcount'
      rw [Nat.le_antisymm hle hge]

theorem ends_search (hne : opener ≠ closer) (i depth : Nat) (bs : List UInt8) :
    Ends opener closer i (depth + 1) bs (search opener closer i (depth + 1) bs) := by
  induction bs generalizing i depth with
  | nil => exact .inl ⟨rfl, staysOpen_zero (Nat.succ_pos depth)⟩
  | cons b bs ih =>
    obtain rfl | ho := eq_or_ne b opener
    · rw [search_opener]
      exact (ih (i + 1) (depth + 1)).cons (Nat.succ_pos depth) (by simp [hne])
    obtain rfl | hc := eq_or_ne b closer
    · cases depth with
      | zero =>
        rw [search_last hne]
        exact .inr ⟨0, Nat.succ_pos _, rfl, staysOpen_zero Nat.one_pos, by simp [ho]⟩
      | succ depth =>
        rw [search_closer hne]
        exact (ih (i + 1) depth).cons (Nat.succ_pos _) (by simp [ho])
    · rw [search_other ho hc]
      exact (ih (i + 1) depth).cons (Nat.succ_pos depth) (by simp [ho, hc])

end Counter

section Texts

variable {opener closer : Char} {t : Text} {start i j : Nat}

theorem extract_eq_cons {b : UInt8} {bs : List UInt8} (hbs : t.utf8.drop start = b :: bs)
    (k : Nat) :
    t.utf8.extract start (start + k + 1) = b :: bs.take k := by
  have hlen : start + k + 1 - start = k + 1 := by omega
  rw [List.extract, hbs, hlen, List.take_succ_cons]

theorem balanced_iff (hbytes : opener.toUInt8 ≠ closer.toUInt8) {bs : List UInt8}
    (hbs : t.utf8.drop start = opener.toUInt8 :: bs) (k : Nat) :
    Balanced opener closer t start (start + 1 + k) ↔ k < bs.length ∧
      (bs.take (k + 1)).count closer.toUInt8 = (bs.take (k + 1)).count opener.toUInt8 + 1 := by
  have hlen : t.size - start = bs.length + 1 := by
    rw [← length_utf8, ← List.length_drop, hbs, List.length_cons]
  have hk : start + 1 + k < t.size ↔ k < bs.length := by omega
  have hextract := extract_eq_cons hbs (k + 1)
  rw [← Nat.add_assoc, Nat.add_right_comm start k 1] at hextract
  rw [Balanced, hk, hextract, List.count_cons_of_ne hbytes, List.count_cons_self]

theorem closingAt?_size (before : Text) {c : Char} (rest : Text) :
    closingAt? opener closer (before ++ c :: rest) before.size =
      (closing opener closer 0 rest).map fun p => before.size + 1 + p.1.size := by
  rw [closingAt?, splitBytes_size]
  rfl

/-- The search for a closer counts the bytes of the text. -/
theorem search_utf8 (ho : IsAscii opener) (hc : IsAscii closer) (hne : opener ≠ closer)
    (i depth : Nat) (t : Text) :
    search opener.toUInt8 closer.toUInt8 i (depth + 1) t.utf8 =
      .ok ((closing opener closer depth t).map fun p => i + p.1.size) := by
  have hbytes := ho.toUInt8_ne hc hne
  have hshift (c : Char) (i : Nat) (found : Option (Text × Text)) :
      ((found.map fun p => (c :: p.1, p.2)).map fun p => i + size p.1) =
        found.map fun p => i + c.utf8Size + size p.1 := by
    simp [Function.comp_def, Nat.add_assoc]
  fun_induction closing opener closer depth t generalizing i with
  | case1 depth => rfl
  | case2 t =>
    rw [hc.utf8_cons, search_last hbytes]
    rfl
  | case3 t depth ih => rw [hc.utf8_cons, search_closer hbytes, ih, hshift, hc.utf8Size_eq]
  | case4 depth t _ ih => rw [ho.utf8_cons, search_opener, ih, hshift, ho.utf8Size_eq]
  | case5 depth c t hclose hopen ih =>
    have hskip : ∀ b ∈ String.utf8EncodeChar c, b ≠ opener.toUInt8 ∧ b ≠ closer.toUInt8 := by
      intro b hb
      constructor
      · rintro rfl
        exact hopen (ho.eq_of_mem_utf8EncodeChar hb)
      · rintro rfl
        exact hclose (hc.eq_of_mem_utf8EncodeChar hb)
    rw [Text.utf8_cons, search_append hskip, ih, hshift, String.length_utf8EncodeChar]

variable (ho : IsAscii opener) (hc : IsAscii closer) (hne : opener ≠ closer)
  (hstart : t.utf8[start]? = some opener.toUInt8)

include ho hc hne hstart

theorem search_closingAt? :
    search opener.toUInt8 closer.toUInt8 start 0 (t.utf8.drop start) =
      .ok (closingAt? opener closer t start) := by
  obtain ⟨before, rest, rfl, rfl⟩ := ho.exists_of_getElem?_utf8 hstart
  rw [drop_utf8, ho.utf8_cons, search_opener, search_utf8 ho hc hne, closingAt?_size]

theorem ends_closingAt? : ∃ bs, t.utf8.drop start = opener.toUInt8 :: bs ∧
    Ends opener.toUInt8 closer.toUInt8 (start + 1) 1 bs
      (.ok (closingAt? opener closer t start)) := by
  have hsearch := search_closingAt? ho hc hne hstart
  obtain ⟨bs, hbs⟩ := List.head?_eq_some_iff.1 ((List.head?_drop ..).trans hstart)
  rw [hbs, search_opener] at hsearch
  refine ⟨bs, hbs, ?_⟩
  rw [← hsearch]
  exact ends_search (ho.toUInt8_ne hc hne) (start + 1) 0 bs

/-- The search depends on the bytes from the opener to the closer only. -/
theorem closingAt?_congr {t' : Text} {start' k : Nat}
    (h : closingAt? opener closer t start = some (start + 1 + k))
    (hbytes : t'.utf8.extract start' (start' + (k + 2)) = t.utf8.extract start (start + (k + 2))) :
    closingAt? opener closer t' start' = some (start' + 1 + k) := by
  obtain ⟨bs, hbs, hends⟩ := ends_closingAt? ho hc hne hstart
  obtain ⟨k', hk, heq, hopen, hcount⟩ := hends.eq_some_iff.1 (congrArg Except.ok h)
  obtain rfl : k = k' := by omega
  have htake : (t'.utf8.drop start').take (k + 2) = opener.toUInt8 :: bs.take (k + 1) := by
    have hcut := extract_eq_cons hbs (k + 1)
    rw [Nat.add_assoc, ← hbytes, List.extract, Nat.add_sub_cancel_left] at hcut
    exact hcut
  have hhead : t'.utf8[start']? = some opener.toUInt8 := by
    have hfirst := congrArg List.head? htake
    rwa [List.head?_take, if_neg (Nat.succ_ne_zero _), List.head?_drop] at hfirst
  obtain ⟨bs', hbs', hends'⟩ := ends_closingAt? ho hc hne hhead
  rw [hbs', List.take_succ_cons, List.cons.injEq] at htake
  have hlen : k < bs'.length := by
    have hlength := congrArg List.length htake.2
    rw [List.length_take, List.length_take] at hlength
    omega
  have hsame : bs'.take k = bs.take k := by
    have hfirst := congrArg (List.take k) htake.2
    rwa [List.take_take, List.take_take, Nat.min_eq_left (Nat.le_succ k)] at hfirst
  have hfound := hends'.eq_some_iff.2
    ⟨k, hlen, rfl, hopen.congr hsame, by rw [htake.2]; exact hcount⟩
  exact Except.ok.inj hfound

theorem closingAt?_congr_none {t' : Text} {start' : Nat}
    (h : closingAt? opener closer t start = none)
    (hbytes : t'.utf8.drop start' = t.utf8.drop start) :
    closingAt? opener closer t' start' = none := by
  have hhead : t'.utf8[start']? = some opener.toUInt8 := by
    rw [← List.head?_drop, hbytes, List.head?_drop, hstart]
  obtain ⟨bs, hbs, hends⟩ := ends_closingAt? ho hc hne hstart
  obtain ⟨bs', hbs', hends'⟩ := ends_closingAt? ho hc hne hhead
  obtain rfl : bs' = bs := (List.cons.inj (hbs'.symm.trans (hbytes.trans hbs))).2
  exact Except.ok.inj (hends'.eq_none_iff.2 (hends.eq_none_iff.1 (congrArg Except.ok h)))

theorem opens_before_closingAt? (h : closingAt? opener closer t start = some i) (hj : start ≤ j)
    (hji : j < i) : (t.utf8.extract start (j + 1)).count closer.toUInt8 <
      (t.utf8.extract start (j + 1)).count opener.toUInt8 := by
  obtain ⟨bs, hbs, hends⟩ := ends_closingAt? ho hc hne hstart
  obtain ⟨k, -, rfl, hopen, -⟩ := hends.eq_some_iff.1 (congrArg Except.ok h)
  obtain ⟨m, rfl⟩ := Nat.exists_eq_add_of_le hj
  rw [extract_eq_cons hbs, List.count_cons_of_ne (ho.toUInt8_ne hc hne), List.count_cons_self]
  exact hopen m (by omega)

theorem isLeast_closingAt? (h : closingAt? opener closer t start = some i) :
    IsLeast {j | start < j ∧ Balanced opener closer t start j} i := by
  obtain ⟨bs, hbs, hends⟩ := ends_closingAt? ho hc hne hstart
  obtain ⟨k, hk, rfl, hopen, hcount⟩ := hends.eq_some_iff.1 (congrArg Except.ok h)
  refine ⟨⟨by omega, (balanced_iff (ho.toUInt8_ne hc hne) hbs k).2 ⟨hk, hcount⟩⟩, ?_⟩
  rintro j ⟨hj, -, hbalance⟩
  by_contra hlt
  have hopens := opens_before_closingAt? ho hc hne hstart h (Nat.le_of_lt hj) (Nat.lt_of_not_le hlt)
  exact Nat.ne_of_lt hopens hbalance

theorem not_balanced_of_closingAt?_none (h : closingAt? opener closer t start = none)
    (hj : start < j) : ¬Balanced opener closer t start j := by
  obtain ⟨bs, hbs, hends⟩ := ends_closingAt? ho hc hne hstart
  have hopen := hends.eq_none_iff.1 (congrArg Except.ok h)
  obtain ⟨k, rfl⟩ := Nat.exists_eq_add_of_le hj
  rw [Nat.succ_eq_add_one, balanced_iff (ho.toUInt8_ne hc hne) hbs]
  rintro ⟨hk, hcount⟩
  exact Nat.ne_of_lt (hopen (k + 1) hk) hcount

end Texts

/-- The closer of a delimiter is at the first byte up to which as much is closed as is opened. All
that matters are the bytes from the opener to there, or to the end of the text when there is no such
byte. -/
theorem closingAt?_is_first_balanced {opener closer : Char} (ho : IsAscii opener)
    (hc : IsAscii closer) (hne : opener ≠ closer) {t : Text} {start : Nat}
    (hstart : t.utf8[start]? = some opener.toUInt8) :
    search opener.toUInt8 closer.toUInt8 start 0 (t.utf8.drop start) =
      .ok (closingAt? opener closer t start) ∧
    (∀ i, closingAt? opener closer t start = some i ↔
      IsLeast {j | start < j ∧ Balanced opener closer t start j} i) ∧
    (closingAt? opener closer t start = none ↔
      ∀ j, start < j → ¬Balanced opener closer t start j) ∧
    (∀ i, closingAt? opener closer t start = some i → ∀ j, start ≤ j → j < i →
      (t.utf8.extract start (j + 1)).count closer.toUInt8 <
        (t.utf8.extract start (j + 1)).count opener.toUInt8) ∧
    (∀ i t' start', closingAt? opener closer t start = some i →
      t'.utf8.extract start' (start' + (i + 1 - start)) = t.utf8.extract start (i + 1) →
      closingAt? opener closer t' start' = some (start' + (i - start))) ∧
    ∀ t' start', closingAt? opener closer t start = none →
      t'.utf8.drop start' = t.utf8.drop start → closingAt? opener closer t' start' = none := by
  refine ⟨search_closingAt? ho hc hne hstart,
    fun i => ⟨fun h => isLeast_closingAt? ho hc hne hstart h, fun h => ?_⟩,
    ⟨fun h j hj => not_balanced_of_closingAt?_none ho hc hne hstart h hj, fun h => ?_⟩,
    fun i h j hj hji => opens_before_closingAt? ho hc hne hstart h hj hji, ?_,
    fun t' start' h hbytes => closingAt?_congr_none ho hc hne hstart h hbytes⟩
  · cases hclosing : closingAt? opener closer t start with
    | none => exact absurd h.1.2 (not_balanced_of_closingAt?_none ho hc hne hstart hclosing h.1.1)
    | some j => rw [(isLeast_closingAt? ho hc hne hstart hclosing).unique h]
  · cases hclosing : closingAt? opener closer t start with
    | none => rfl
    | some j =>
      have hleast := isLeast_closingAt? ho hc hne hstart hclosing
      exact absurd hleast.1.2 (h j hleast.1.1)
  · intro i t' start' h hbytes
    have hlt : start < i := (isLeast_closingAt? ho hc hne hstart h).1.1
    obtain ⟨k, rfl⟩ := Nat.exists_eq_add_of_le hlt
    have hlen : start + 1 + k + 1 = start + (k + 2) := by omega
    have hcut : start + (k + 2) - start = k + 2 := by omega
    rw [Nat.succ_eq_add_one, hlen, hcut] at hbytes
    have hplace : start' + (start + 1 + k - start) = start' + 1 + k := by omega
    rw [Nat.succ_eq_add_one, hplace]
    exact closingAt?_congr ho hc hne hstart h hbytes

theorem closingAt?_is_first_balanced_nested :
    (utf8 "é[a[é]]b]")[2]? = some '['.toUInt8 ∧
    closingAt? '[' ']' "é[a[é]]b]" 2 = some 8 ∧
    IsLeast {j | 2 < j ∧ Balanced '[' ']' "é[a[é]]b]" 2 j} 8 ∧
    (List.extract (utf8 "é[a[é]]b]") 2 8).count ']'.toUInt8 <
      (List.extract (utf8 "é[a[é]]b]") 2 8).count '['.toUInt8 ∧
    closingAt? '[' ']' "][a[é]]" 1 = some 7 ∧
    closingAt? '[' ']' "[a[é]" 0 = none ∧
    (∀ j, 0 < j → ¬Balanced '[' ']' "[a[é]" 0 j) := by
  have hstart : (utf8 "é[a[é]]b]")[2]? = some '['.toUInt8 := by cbv
  have hopen : (utf8 "[a[é]")[0]? = some '['.toUInt8 := by cbv
  have hfound : closingAt? '[' ']' "é[a[é]]b]" 2 = some 8 := by cbv
  have hnone : closingAt? '[' ']' "[a[é]" 0 = none := by cbv
  have ho : IsAscii '[' := by decide
  have hc : IsAscii ']' := by decide
  obtain ⟨-, hleast, -, hopens, hmoved, -⟩ :=
    closingAt?_is_first_balanced ho hc (by decide) hstart
  obtain ⟨-, -, hunclosed, -⟩ := closingAt?_is_first_balanced ho hc (by decide) hopen
  exact ⟨hstart, hfound, (hleast 8).1 hfound, hopens 8 hfound 7 (by decide) (by decide),
    hmoved 8 "][a[é]]" 1 hfound (by cbv), hnone, hunclosed.1 hnone⟩

end Listing.Template
