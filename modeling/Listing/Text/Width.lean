import Listing.Text.EmojiSequence
import Listing.Text.EscapeSequence
import Listing.Text.Ligature

namespace Listing.Text

/-- What a run starts with, as far as it matters for a character before it. -/
inductive Lead
  | plain
  | newline
  | emoji (s : EmojiSequence)
  | ligature (l : Ligature) (joined : Bool)
  deriving DecidableEq

inductive Look
  | emoji
  | text
  | wide
  deriving DecidableEq

structure Start where
  lead : Lead := .plain
  look : Option Look := none
  deriving DecidableEq

namespace Start

def ofEmoji (s : EmojiSequence) : Start := ⟨.emoji s, none⟩

def ofLigature : Option Ligature → Start
  | none => {}
  | some l => ⟨.ligature l false, none⟩

/-- The start without its look. Most sequences end at a variation selector. -/
def withoutLook (s : Start) : Start :=
  match s.lead with
  | .ligature l joined => if l.outlivesSelector then ⟨.ligature l joined, none⟩ else {}
  | _ => {}

def isJoined (s : Start) : Bool :=
  match s.lead with
  | .emoji .joined | .emoji .joinedKeycap => true
  | _ => false

def select (s : Start) (look : Look) : Start :=
  if look = .emoji ∧ s.isJoined then ⟨s.lead, some look⟩
  else ⟨s.withoutLook.lead, some look⟩

end Start

def columnsAlone (c : Char) : Int × Start :=
  if c = '\ufe01' then (0, ⟨.plain, some .wide⟩)
  else if isRegional c then (1, .ofEmoji .flag)
  else if isModifier c then (2, .ofEmoji .modifier)
  else if isEmoji c then (2, .ofEmoji .emoji)
  else
    match Ligature.ofChar? c with
    | some l => (1, .ofLigature (some l))
    | none => (columns c, {})

def columnsBefore (c : Char) (s : Start) : Int × Start :=
  match s.lead with
  | .emoji e =>
    match e.before? c with
    | some (n, e) => (n, .ofEmoji e)
    | none => columnsAlone c
  | .ligature l joined =>
    if l.allowsMarks ∧ c = joiner then (0, ⟨.ligature l true, none⟩)
    else if l.allowsMarks ∧ isIgnorableMark c then (0, s)
    else
      match l.before? joined c with
      | some (n, l) => (n, .ofLigature l)
      | none => columnsAlone c
  | _ => columnsAlone c

def shrinksToText (c : Char) : Bool :=
  hasVariations c && isEmoji c && c.toNat != 0x1F21A && c.toNat != 0x1F22F

def isQuotationMark (c : Char) : Bool :=
  c == '‘' || c == '’' || c == '“' || c == '”'

/-- Puts a character before a run: what it adds to the columns, and what the run starts with then.
-/
def extend (c : Char) (s : Start) : Int × Start :=
  if s.look = some .emoji ∧ hasVariations c then (if s.isJoined then 0 else 2, .ofEmoji .emoji)
  else
    let s := if s.look = some .emoji then s.withoutLook else s
    if c = '\n' then (1, ⟨.newline, none⟩)
    else if c = '\r' ∧ s.lead = .newline then (0, {})
    else if c.toNat ≤ 0xA0 then (1, {})
    else if c = '\ufe0f' then (0, s.select .emoji)
    else if c = '\ufe0e' then (0, s.select .text)
    else
      match s.look with
      | some .text => if shrinksToText c then (1, {}) else columnsBefore c s.withoutLook
      | some .wide => if isQuotationMark c then (2, {}) else columnsBefore c s.withoutLook
      | _ => columnsBefore c s

/-- The columns that a character before the start can take back. -/
def Start.refund (s : Start) : Int :=
  match s.lead with
  | .emoji .oneFlag | .emoji .oddFlags => 1
  | .ligature .coeng _ | .ligature .tifinaghJoiner _ => 1
  | _ => 0

theorem Start.refund_nonneg (s : Start) : 0 ≤ s.refund := by
  unfold Start.refund
  split <;> decide

theorem refund_columnsAlone (c : Char) : (columnsAlone c).2.refund ≤ (columnsAlone c).1 := by
  unfold columnsAlone
  split
  · decide
  split
  · decide
  split
  · decide
  split
  · decide
  split
  · next l _ => cases l <;> decide
  · simp [Start.refund]

theorem refund_emoji {e e' : EmojiSequence} {c : Char} {n : Int} (h : e.before? c = some (n, e')) :
    (Start.ofEmoji e').refund ≤ (Start.ofEmoji e).refund + n := by
  unfold EmojiSequence.before? EmojiSequence.tagBefore? at h
  cases e <;> grind [Start.refund, Start.ofEmoji]

theorem refund_ligature {l : Ligature} {l' : Option Ligature} {joined : Bool} {c : Char} {n : Int}
    (h : l.before? joined c = some (n, l')) :
    (Start.ofLigature l').refund ≤ (Start.mk (.ligature l joined) none).refund + n := by
  unfold Ligature.before? at h
  cases l <;> grind [Start.refund, Start.ofLigature]

theorem refund_columnsBefore (c : Char) (s : Start) :
    (columnsBefore c s).2.refund ≤ s.refund + (columnsBefore c s).1 := by
  have h := refund_columnsAlone c
  have h₀ := s.refund_nonneg
  unfold columnsBefore
  split
  · next e he =>
    have : s.refund = (Start.ofEmoji e).refund := by simp [Start.refund, Start.ofEmoji, he]
    split
    · next n e' hn => rw [this]; exact refund_emoji hn
    · omega
  · next l j he =>
    have : s.refund = (Start.mk (.ligature l j) none).refund := by simp [Start.refund, he]
    split
    · cases l <;> simp [Start.refund, he]
    split
    · simp
    split
    · next n e' hn => rw [this]; exact refund_ligature hn
    · omega
  · omega

theorem refund_withoutLook (s : Start) : s.withoutLook.refund ≤ s.refund := by
  unfold Start.withoutLook
  split
  · next l j he =>
    split
    · simp [Start.refund, he]
    · exact s.refund_nonneg
  · exact s.refund_nonneg

theorem refund_select (s : Start) (look : Look) : (s.select look).refund ≤ s.refund := by
  unfold Start.select
  split
  · simp [Start.refund]
  · exact refund_withoutLook s

theorem refund_extend (c : Char) (s : Start) :
    (extend c s).2.refund ≤ s.refund + (extend c s).1 := by
  have h₀ := s.refund_nonneg
  have h₁ := refund_withoutLook s
  unfold extend
  split
  · simp only [Start.refund, Start.ofEmoji]
    split <;> omega
  · simp only
    generalize hs : (if s.look = some .emoji then s.withoutLook else s) = s'
    have h₂ : s'.refund ≤ s.refund := by grind
    have h₃ := s'.refund_nonneg
    have h₄ := refund_withoutLook s'
    have h₅ := refund_columnsBefore c s'
    have h₆ := refund_columnsBefore c s'.withoutLook
    have h₇ := refund_select s' .emoji
    have h₈ := refund_select s' .text
    have h₉ : ({} : Start).refund = 0 := rfl
    have h₁₀ : (Start.mk .newline none).refund = 0 := rfl
    grind

/-- A run is measured from its end, since what a character takes depends on those behind it. -/
def measure (t : Text) : Int × Start :=
  t.foldr (fun c p => let q := extend c p.2; (p.1 + q.1, q.2)) (0, {})

theorem refund_measure (t : Text) : (measure t).2.refund ≤ (measure t).1 := by
  induction t with
  | nil => decide
  | cons c t ih =>
    have := refund_extend c (measure t).2
    simp only [measure, List.foldr_cons] at *
    omega

theorem measure_nonneg (t : Text) : 0 ≤ (measure t).1 :=
  Int.le_trans (measure t).2.refund_nonneg (refund_measure t)

def lineWidth (t : Text) : Nat := (measure t).1.toNat

def width (t : Text) : Nat := (runs t).foldr (fun line n => lineWidth line + n) 0

def spaces (n : Nat) : Text := List.replicate n ' '

/-- Right-aligns a text. A text that is too wide stays whole. -/
def alignRight (n : Nat) (t : Text) : Text := spaces (n - width t) ++ t

def alignLeft (n : Nat) (t : Text) : Text := t ++ spaces (n - width t)

end Listing.Text
