import Mathlib
import Listing.Color.Terminal
import Listing.Proofs.Outcome

namespace Listing

namespace Text

variable {s t core : Text} {c : Char} {n : Nat}

/-- A text is another one between blanks, and that one neither starts nor ends with a blank. -/
structure TrimsTo (t core : Text) : Prop where
  split : ∃ before after, t = before ++ core ++ after ∧
    (∀ c ∈ before, isBlank c = true) ∧ ∀ c ∈ after, isBlank c = true
  head : ∀ c, core.head? = some c → isBlank c = false
  last : ∀ c, core.getLast? = some c → isBlank c = false

theorem trim_eq_rdropWhile (t : Text) : trim t = (trimStart t).rdropWhile isBlank := rfl

theorem trimsTo_trim (t : Text) : t.TrimsTo t.trim := by
  have hstart : t.trim ++ (trimStart t).rtakeWhile isBlank = trimStart t :=
    List.rdropWhile_append_rtakeWhile
  refine ⟨⟨t.takeWhile isBlank, (trimStart t).rtakeWhile isBlank, ?_, ?_, ?_⟩, ?_, ?_⟩
  · rw [List.append_assoc, hstart]
    exact List.takeWhile_append_dropWhile.symm
  · exact fun c hc => List.mem_takeWhile_imp hc
  · exact fun c hc => List.mem_rtakeWhile_imp hc
  · intro c hc
    have hhead := List.head?_dropWhile_not isBlank t
    rwa [← trimStart, ← hstart, List.head?_append, hc] at hhead
  · intro c hc
    have hne : t.trim ≠ [] := by
      rintro hnil
      rw [hnil] at hc
      cases hc
    rw [List.getLast?_eq_some_getLast hne] at hc
    obtain rfl := Option.some.inj hc
    exact Bool.eq_false_iff.2 (List.rdropWhile_last_not isBlank (trimStart t) hne)

theorem TrimsTo.trim_eq (h : t.TrimsTo core) : t.trim = core := by
  obtain ⟨⟨before, after, rfl, hbefore, hafter⟩, hhead, hlast⟩ := h
  have hstart : trimStart (before ++ core ++ after) = trimStart (core ++ after) := by
    rw [trimStart, List.append_assoc, List.dropWhile_append_of_pos hbefore]
    rfl
  rw [trim_eq_rdropWhile, hstart]
  cases core with
  | nil =>
    have hnone : trimStart after = [] := List.dropWhile_eq_nil_iff.2 hafter
    rw [List.nil_append, hnone]
    rfl
  | cons c core =>
    have hkeep : trimStart (c :: core ++ after) = c :: core ++ after :=
      List.dropWhile_cons_of_neg (by simp [hhead c rfl])
    have hdrop : (c :: core ++ after).rdropWhile isBlank = (c :: core).rdropWhile isBlank := by
      rw [List.rdropWhile, List.reverse_append, List.dropWhile_append_of_pos]
      · rfl
      · exact fun x hx => hafter x (List.mem_reverse.1 hx)
    rw [hkeep, hdrop, List.rdropWhile_eq_self_iff]
    intro hne
    rw [hlast _ (List.getLast?_eq_some_getLast hne)]
    decide

theorem trim_eq_iff : t.trim = core ↔ t.TrimsTo core :=
  ⟨fun h => h ▸ t.trimsTo_trim, TrimsTo.trim_eq⟩

def hexAlphabet (upper : Bool) : Text :=
  ['0', '1', '2', '3', '4', '5', '6', '7', '8', '9'] ++
    if upper then ['A', 'B', 'C', 'D', 'E', 'F'] else ['a', 'b', 'c', 'd', 'e', 'f']

def IsHexDigit (c : Char) : Prop := c ∈ hexAlphabet false ∨ c ∈ hexAlphabet true

instance : DecidablePred IsHexDigit := fun c =>
  inferInstanceAs (Decidable (c ∈ hexAlphabet false ∨ c ∈ hexAlphabet true))

def hexValue (c : Char) : Nat := (hexAlphabet false).idxOf c.toLower

theorem forall_ascii {P : Char → Prop} (h : ∀ n < 128, P (Char.ofNat n)) (hc : c.toNat < 128) :
    P c := by
  have hc := h c.toNat hc
  rwa [Char.ofNat_toNat] at hc

theorem toLower_of_le (h : 128 ≤ c.toNat) : c.toLower = c := by
  rw [Char.toLower, dif_neg]
  intro hc
  have hz := UInt32.le_iff_toNat_le.1 hc.2
  exact absurd (Nat.le_trans h hz) (by decide)

theorem IsHexDigit.lt (h : IsHexDigit c) : c.toNat < 128 := by
  have hsmall (upper : Bool) : (hexAlphabet upper).all fun d => decide (d.toNat < 128) := by
    cases upper <;> decide
  rcases h with h | h
  · simpa using List.all_eq_true.1 (hsmall false) c h
  · simpa using List.all_eq_true.1 (hsmall true) c h

theorem IsHexDigit.hexValue_lt (h : IsHexDigit c) : hexValue c < 16 :=
  forall_ascii (P := fun c => IsHexDigit c → hexValue c < 16) (by decide +kernel) h.lt h

theorem IsHexDigit.isBlank_eq_false (h : IsHexDigit c) : isBlank c = false :=
  forall_ascii (P := fun c => IsHexDigit c → isBlank c = false) (by decide +kernel) h.lt h

theorem IsHexDigit.ne_mark (h : IsHexDigit c) : c ≠ '#' := by
  rintro rfl
  revert h
  decide

theorem hexDigit?_eq (c : Char) :
    hexDigit? c = if IsHexDigit c then some (hexValue c) else none := by
  by_cases hc : c.toNat < 128
  · exact forall_ascii
      (P := fun c => hexDigit? c = if IsHexDigit c then some (hexValue c) else none)
      (by decide +kernel) hc
  · have hlarge (d : Char) (hd : d.toNat < 128) : ¬c ≤ d :=
      fun h => hc (Nat.lt_of_le_of_lt (UInt32.le_iff_toNat_le.1 (Char.le_def.1 h)) hd)
    have hnot : ¬IsHexDigit c := fun h => hc h.lt
    simp only [hexDigit?, hlarge '9' (by decide), hlarge 'f' (by decide), hlarge 'F' (by decide),
      and_false, ↓reduceIte, hnot]

theorem hexDigit?_eq_some_iff : hexDigit? c = some n ↔ IsHexDigit c ∧ hexValue c = n := by
  rw [hexDigit?_eq]
  by_cases hc : IsHexDigit c <;> simp [hc]

theorem mapM_hexDigit?_eq_some_iff {values : List Nat} :
    t.mapM hexDigit? = some values ↔ (∀ c ∈ t, IsHexDigit c) ∧ t.map hexValue = values := by
  simp only [mapM_eq_some_iff, hexDigit?_eq_some_iff]
  rw [List.forall₂_and_left, ← List.forall₂_map_left_iff (f := hexValue), List.forall₂_eq_eq_eq]

theorem isBlank_toLower (c : Char) : isBlank c.toLower = isBlank c := by
  by_cases hc : c.toNat < 128
  · exact forall_ascii (P := fun c => isBlank c.toLower = isBlank c) (by decide +kernel) hc
  · rw [toLower_of_le (Nat.le_of_not_lt hc)]

theorem hexDigit?_toLower (c : Char) : hexDigit? c.toLower = hexDigit? c := by
  by_cases hc : c.toNat < 128
  · exact forall_ascii (P := fun c => hexDigit? c.toLower = hexDigit? c) (by decide +kernel) hc
  · rw [toLower_of_le (Nat.le_of_not_lt hc)]

theorem toLower_eq_mark_iff : c.toLower = '#' ↔ c = '#' := by
  by_cases hc : c.toNat < 128
  · exact forall_ascii (P := fun c => c.toLower = '#' ↔ c = '#') (by decide +kernel) hc
  · rw [toLower_of_le (Nat.le_of_not_lt hc)]

theorem trim_map_toLower (t : Text) : trim (t.map Char.toLower) = t.trim.map Char.toLower := by
  have hblank : isBlank ∘ Char.toLower = isBlank := funext isBlank_toLower
  have hstart (t : Text) : trimStart (t.map Char.toLower) = (trimStart t).map Char.toLower := by
    rw [trimStart, List.dropWhile_map, hblank]
    rfl
  simp only [trim, hstart, ← List.map_reverse]

end Text

namespace Rgb

open Text (IsHexDigit hexValue)

variable {t : Text} {c : Char}

/-- A text without the mark that digits of colors may have in front. -/
def withoutMark : Text → Text
  | '#' :: t => t
  | t => t

def channels (color : Rgb) : List Nat := [color.red.toNat, color.green.toNat, color.blue.toNat]

def hex (upper : Bool) (color : Rgb) : Text :=
  color.channels.flatMap fun n =>
    [(Text.hexAlphabet upper).getD (n / 16) '0', (Text.hexAlphabet upper).getD (n % 16) '0']

theorem ofHex?_eq (t : Text) : ofHex? t = ofDigits? (withoutMark t.trim) := by
  rw [ofHex?]
  split
  · next heq => rw [heq, withoutMark]
  · next hne => rw [withoutMark]; exact hne

theorem toNat_channel {high low : Nat} (hhigh : high < 16) (hlow : low < 16) :
    (channel high low).toNat = 16 * high + low :=
  UInt8.toNat_ofNat_of_lt' (by
    change _ < 256
    omega)

theorem channels_injective : Function.Injective channels := by
  intro color color' h
  simp only [channels, List.cons.injEq, UInt8.toNat_inj, and_true] at h
  obtain ⟨hred, hgreen, hblue⟩ := h
  exact (mk.injEq _ _ _ _ _ _).to_iff.2 ⟨hred, hgreen, hblue⟩

/-- The channels that three or six digits stand for. -/
def channelsOf? : List Nat → Option (List Nat)
  | [r, g, b] => some [17 * r, 17 * g, 17 * b]
  | [r, r', g, g', b, b'] => some [16 * r + r', 16 * g + g', 16 * b + b']
  | _ => none

def ofValues? : List Nat → Option Rgb
  | [r, g, b] => some ⟨channel r r, channel g g, channel b b⟩
  | [r, r', g, g', b, b'] => some ⟨channel r r', channel g g', channel b b'⟩
  | _ => none

theorem ofDigits?_eq (t : Text) : ofDigits? t = (t.mapM Text.hexDigit?).bind ofValues? := by
  rw [ofDigits?]
  cases t.mapM Text.hexDigit? with
  | none => rfl
  | some values =>
    rw [Option.bind_some, ofValues?.eq_def]
    grind

theorem map_channels_ofValues? {values : List Nat} (h : ∀ v ∈ values, v < 16) :
    (ofValues? values).map channels = channelsOf? values := by
  unfold ofValues? channelsOf?
  split
  · simp only [List.forall_mem_cons] at h
    obtain ⟨hr, hg, hb, -⟩ := h
    simp only [Option.map_some, channels, toNat_channel, hr, hg, hb, Option.some.injEq,
      List.cons.injEq, and_true]
    omega
  · simp only [List.forall_mem_cons] at h
    obtain ⟨hr, hr', hg, hg', hb, hb', -⟩ := h
    simp only [Option.map_some, channels, toNat_channel, hr, hr', hg, hg', hb, hb']
  · rfl

theorem ofDigits?_eq_some_iff {color : Rgb} :
    ofDigits? t = some color ↔
      (∀ c ∈ t, IsHexDigit c) ∧ channelsOf? (t.map hexValue) = some color.channels := by
  have hvalues (h : ∀ c ∈ t, IsHexDigit c) :
      ofValues? (t.map hexValue) = some color ↔
        channelsOf? (t.map hexValue) = some color.channels := by
    rw [← map_channels_ofValues? (List.forall_mem_map.2 fun c hc => (h c hc).hexValue_lt),
      ← Option.map_some, (Option.map_injective channels_injective).eq_iff]
  rw [ofDigits?_eq, Option.bind_eq_some_iff]
  constructor
  · rintro ⟨values, hread, hcolor⟩
    obtain ⟨hdigits, rfl⟩ := Text.mapM_hexDigit?_eq_some_iff.1 hread
    exact ⟨hdigits, (hvalues hdigits).1 hcolor⟩
  · rintro ⟨hdigits, hcolor⟩
    exact ⟨_, Text.mapM_hexDigit?_eq_some_iff.2 ⟨hdigits, rfl⟩, (hvalues hdigits).2 hcolor⟩

theorem isSome_channelsOf?_iff {values : List Nat} :
    (channelsOf? values).isSome ↔ values.length = 3 ∨ values.length = 6 := by
  match values with
  | [] | [_] | [_, _] | [_, _, _] | [_, _, _, _] | [_, _, _, _, _] | [_, _, _, _, _, _] =>
    simp [channelsOf?]
  | _ :: _ :: _ :: _ :: _ :: _ :: _ :: _ => simp [channelsOf?]

theorem isSome_ofDigits?_iff :
    (ofDigits? t).isSome ↔ (t.length = 3 ∨ t.length = 6) ∧ ∀ c ∈ t, IsHexDigit c := by
  constructor
  · intro h
    obtain ⟨color, hcolor⟩ := Option.isSome_iff_exists.1 h
    obtain ⟨hdigits, hchannels⟩ := ofDigits?_eq_some_iff.1 hcolor
    have hlength := isSome_channelsOf?_iff.1 (Option.isSome_of_eq_some hchannels)
    rw [List.length_map] at hlength
    exact ⟨hlength, hdigits⟩
  · rintro ⟨hlength, hdigits⟩
    rw [ofDigits?_eq, Text.mapM_hexDigit?_eq_some_iff.2 ⟨hdigits, rfl⟩, Option.bind_some,
      ← Option.isSome_map (f := channels),
      map_channels_ofValues? (List.forall_mem_map.2 fun c hc => (hdigits c hc).hexValue_lt),
      isSome_channelsOf?_iff, List.length_map]
    exact hlength

theorem withoutMark_cons (hc : c ≠ '#') (t : Text) : withoutMark (c :: t) = c :: t := by
  rw [withoutMark]
  rintro u heq
  cases heq
  exact hc rfl

theorem withoutMark_map_toLower (t : Text) :
    withoutMark (t.map Char.toLower) = (withoutMark t).map Char.toLower := by
  cases t with
  | nil => rfl
  | cons c t =>
    by_cases hc : c = '#'
    · subst hc
      rfl
    · rw [withoutMark_cons hc, List.map_cons, withoutMark_cons (mt Text.toLower_eq_mark_iff.1 hc)]

theorem ofHex?_map_toLower (t : Text) : ofHex? (t.map Char.toLower) = ofHex? t := by
  have hdigits (t : Text) : (t.map Char.toLower).mapM Text.hexDigit? = t.mapM Text.hexDigit? := by
    rw [List.mapM_map]
    exact congrArg (List.mapM · t) (funext Text.hexDigit?_toLower)
  rw [ofHex?_eq, ofHex?_eq, Text.trim_map_toLower, withoutMark_map_toLower, ofDigits?_eq, hdigits,
    ofDigits?_eq]

theorem ofHex?_congr {s : Text} (h : Text.agrees s t = true) : ofHex? s = ofHex? t := by
  rw [← ofHex?_map_toLower s, ← ofHex?_map_toLower t]
  exact congrArg ofHex? (eq_of_beq h)

theorem ofHex?_around {before mark digits after : Text}
    (hbefore : ∀ c ∈ before, Text.isBlank c = true) (hafter : ∀ c ∈ after, Text.isBlank c = true)
    (hmark : mark = [] ∨ mark = ['#']) (hdigits : ∀ c ∈ digits, IsHexDigit c) :
    ofHex? (before ++ mark ++ digits ++ after) = ofDigits? digits := by
  have hcore : ∀ c ∈ mark ++ digits, Text.isBlank c = false := by
    intro c hc
    rcases List.mem_append.1 hc with hc | hc
    · rcases hmark with rfl | rfl
      · cases hc
      · obtain rfl := List.mem_singleton.1 hc
        decide
    · exact (hdigits c hc).isBlank_eq_false
  have htrim : Text.TrimsTo (before ++ mark ++ digits ++ after) (mark ++ digits) :=
    ⟨⟨before, after, by simp only [List.append_assoc], hbefore, hafter⟩,
      fun c hc => hcore c (List.mem_of_head? hc), fun c hc => hcore c (List.mem_of_getLast? hc)⟩
  have hrest : withoutMark (mark ++ digits) = digits := by
    rcases hmark with rfl | rfl
    · cases digits with
      | nil => rfl
      | cons c digits =>
        exact withoutMark_cons (hdigits c List.mem_cons_self).ne_mark digits
    · rfl
  rw [ofHex?_eq, htrim.trim_eq, hrest]

theorem lt_of_mem_channels {color : Rgb} {n : Nat} (h : n ∈ color.channels) : n < 256 := by
  simp only [channels, List.mem_cons, List.not_mem_nil, or_false] at h
  obtain rfl | rfl | rfl := h <;> exact UInt8.toNat_lt _

theorem digit_hexAlphabet (upper : Bool) : ∀ n < 16,
    IsHexDigit ((Text.hexAlphabet upper).getD n '0') ∧
      hexValue ((Text.hexAlphabet upper).getD n '0') = n := by
  cases upper <;> decide

theorem isHexDigit_of_mem_hex {upper : Bool} {color : Rgb} (h : c ∈ color.hex upper) :
    IsHexDigit c := by
  obtain ⟨n, hn, hc⟩ := List.mem_flatMap.1 h
  have hlt := lt_of_mem_channels hn
  rcases List.mem_pair.1 hc with rfl | rfl
  · exact (digit_hexAlphabet upper (n / 16) (by omega)).1
  · exact (digit_hexAlphabet upper (n % 16) (by omega)).1

theorem ofDigits?_hex (upper : Bool) (color : Rgb) : ofDigits? (color.hex upper) = some color := by
  refine ofDigits?_eq_some_iff.2 ⟨fun c hc => isHexDigit_of_mem_hex hc, ?_⟩
  have hvalues : (color.hex upper).map hexValue =
      color.channels.flatMap fun n => [n / 16, n % 16] := by
    rw [hex, List.map_flatMap]
    refine List.flatMap_congr fun n hn => ?_
    have hlt := lt_of_mem_channels hn
    rw [List.map_cons, List.map_singleton, (digit_hexAlphabet upper (n / 16) (by omega)).2,
      (digit_hexAlphabet upper (n % 16) (by omega)).2]
  rw [hvalues]
  simp only [channels, List.flatMap_cons, List.flatMap_nil, List.cons_append, List.nil_append,
    channelsOf?, Nat.div_add_mod]

/-- Colors are read from three or six hexadecimal digits in any case, which a mark may precede and
blanks may surround. Three digits stand for six, each written twice. -/
theorem ofHex?_reads_digits (t : Text) :
    (∀ core, t.TrimsTo core ↔ t.trim = core) ∧
    ((ofHex? t).isSome ↔ ((withoutMark t.trim).length = 3 ∨ (withoutMark t.trim).length = 6) ∧
      ∀ c ∈ withoutMark t.trim, IsHexDigit c) ∧
    (∀ color r r' g g' b b', withoutMark t.trim = [r, r', g, g', b, b'] → ofHex? t = some color →
      color.channels = [16 * hexValue r + hexValue r', 16 * hexValue g + hexValue g',
        16 * hexValue b + hexValue b']) ∧
    (∀ color r g b, withoutMark t.trim = [r, g, b] → ofHex? t = some color →
      ofHex? [r, r, g, g, b, b] = some color ∧
        color.channels = [17 * hexValue r, 17 * hexValue g, 17 * hexValue b]) ∧
    (∀ s, Text.agrees s t = true → ofHex? s = ofHex? t) ∧
    ∀ (color : Rgb) (upper : Bool) (before mark after : Text),
      (∀ c ∈ before, Text.isBlank c = true) → (∀ c ∈ after, Text.isBlank c = true) →
      (mark = [] ∨ mark = ['#']) →
      ofHex? (before ++ mark ++ color.hex upper ++ after) = some color := by
  refine ⟨fun core => Text.trim_eq_iff.symm, ?_, ?_, ?_, fun s => ofHex?_congr, ?_⟩
  · rw [ofHex?_eq, isSome_ofDigits?_iff]
  · intro color r r' g g' b b' heq h
    rw [ofHex?_eq, ofDigits?_eq_some_iff, heq] at h
    exact (Option.some.inj h.2).symm
  · intro color r g b heq h
    rw [ofHex?_eq, ofDigits?_eq_some_iff, heq] at h
    obtain ⟨hdigits, hchannels⟩ := h
    have hdigits' : ∀ c ∈ [r, r, g, g, b, b], IsHexDigit c := by simpa using hdigits
    have hdouble : ofHex? ([] ++ [] ++ [r, r, g, g, b, b] ++ []) = ofDigits? _ :=
      ofHex?_around nofun nofun (.inl rfl) hdigits'
    refine ⟨hdouble.trans (ofDigits?_eq_some_iff.2 ⟨hdigits', ?_⟩),
      (Option.some.inj hchannels).symm⟩
    rw [← hchannels]
    simp only [List.map_cons, List.map_nil, channelsOf?, Option.some.injEq, List.cons.injEq,
      and_true]
    omega
  · intro color upper before mark after hbefore hafter hmark
    rw [ofHex?_around hbefore hafter hmark fun c hc => isHexDigit_of_mem_hex hc, ofDigits?_hex]

def shortHex : Text := ['\u3000', ' ', '#', 'D', '7', 'a', '\u00a0']

theorem ofHex?_reads_digits_short :
    withoutMark shortHex.trim = ['D', '7', 'a'] ∧ ofHex? shortHex = some ⟨221, 119, 170⟩ ∧
    ofHex? ['D', 'D', '7', '7', 'a', 'a'] = some ⟨221, 119, 170⟩ ∧
    channels ⟨221, 119, 170⟩ = [17 * hexValue 'D', 17 * hexValue '7', 17 * hexValue 'a'] ∧
    ofHex? (shortHex.map Char.toLower) = ofHex? shortHex ∧
    ofHex? (['\n'] ++ ['#'] ++ hex true ⟨215, 58, 74⟩ ++ ['\u2003', ' ']) = some ⟨215, 58, 74⟩ := by
  obtain ⟨-, -, -, hshort, hcase, hhex⟩ := ofHex?_reads_digits shortHex
  have hdigits : withoutMark shortHex.trim = ['D', '7', 'a'] := by decide
  have hcolor : ofHex? shortHex = some ⟨221, 119, 170⟩ := by decide
  obtain ⟨hdouble, hchannels⟩ := hshort _ _ _ _ hdigits hcolor
  have hbefore : ∀ c ∈ ['\n'], Text.isBlank c = true := List.all_eq_true.1 (by decide)
  have hafter : ∀ c ∈ ['\u2003', ' '], Text.isBlank c = true := List.all_eq_true.1 (by decide)
  exact ⟨hdigits, hcolor, hdouble, hchannels, hcase _ (by decide),
    hhex ⟨215, 58, 74⟩ true ['\n'] ['#'] ['\u2003', ' '] hbefore hafter (.inr rfl)⟩

end Rgb

end Listing
