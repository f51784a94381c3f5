import Listing.Proofs.Outcome
import Listing.Proofs.Template.Appended
import Listing.Render.Vocabulary

namespace Listing

open Template

variable {C : Type}

/-- The color of a span when no name gives it one. -/
def settled (color : Text) : Text := if Text.agrees color "auto" then [] else color

/-- A text and its output when no name is known. -/
inductive Settles : Text → Text → Prop
  | nil : Settles [] []
  | literal {c : Char} {t out : Text} : c ∉ ['[', '?', '@', '$'] → Settles t out →
      Settles (c :: t) (c :: out)
  | value {t out : Text} : Settles (t.drop (valueName t).length) out →
      Settles ('$' :: t) ('$' :: valueName t ++ out)
  | span {t inner out : Text} {p : Part} : bracketed t = .ok p → Settles p.body inner →
      Settles p.rest out → Settles ('[' :: t) ('[' :: settled p.head ++ ':' :: inner ++ ']' :: out)
  | condition {t inner out : Text} {p : Part} : braced t = .ok p → Settles p.body inner →
      Settles p.rest out → Settles ('?' :: t) ('?' :: p.head ++ '{' :: inner ++ '}' :: out)
  | call {t out : Text} {p : Part} : braced t = .ok p → Settles p.rest out →
      Settles ('@' :: t) ('@' :: p.head ++ '{' :: p.body ++ '}' :: out)

def Answers.none : Answers where
  value _ := .ok .none
  color _ := .ok .none
  condition _ := .ok .none
  call _ _ := .ok .none

theorem spanColor_none (color : Text) (subject : Option Text) :
    spanColor .none color subject = .ok (settled color) := by
  unfold spanColor settled
  split
  · cases subject <;> rfl
  · rfl

section Equations

variable (color name key : Text) (subject : Option Text) (args : List Text) (flaw : Option Defect)
  (body rest : Template)

theorem fill_none_value :
    (value name rest).fill .none = ('$' :: name ++ ·) <$> rest.fill .none := rfl

theorem fill_none_span :
    (span color subject body rest).fill .none = do
      let inner ← body.fill .none
      let out ← rest.fill .none
      return '[' :: settled color ++ ':' :: inner ++ ']' :: out := by
  rw [fill, spanColor_none]
  rfl

theorem fill_none_condition :
    (condition key body rest).fill .none = do
      let inner ← body.fill .none
      let out ← rest.fill .none
      return '?' :: key ++ '{' :: inner ++ '}' :: out := rfl

theorem fill_none_call :
    (call name args flaw rest).fill .none =
      ('@' :: name ++ '{' :: ['@'].intercalate args ++ '}' :: ·) <$> rest.fill .none := by
  have hcall : (call name args flaw rest).fill .none = (fun out =>
      '@' :: name ++ '{' :: ['@'].intercalate args ++ ['}'] ++ out) <$> rest.fill .none := rfl
  simpa using hcall

end Equations

theorem settles_of_fill {t out : Text} {pos : Nat} (h : (read pos t).fill .none = .ok out) :
    Settles t out := by
  induction t using readInduction generalizing pos out with
  | nil =>
    rw [read_nil] at h
    cases h
    exact .nil
  | spanBroken t fault hp =>
    rw [read_span_broken pos hp] at h
    cases h
  | span t p hp ihb ihr =>
    rw [read_span pos hp, fill_none_span] at h
    obtain ⟨inner, hinner, h⟩ := bind_eq_ok h
    obtain ⟨rest, hrest, h⟩ := bind_eq_ok h
    cases h
    exact .span hp (ihb hinner) (ihr hrest)
  | conditionBroken t fault hp =>
    rw [read_condition_broken pos hp] at h
    cases h
  | condition t p hp ihb ihr =>
    rw [read_condition pos hp, fill_none_condition] at h
    obtain ⟨inner, hinner, h⟩ := bind_eq_ok h
    obtain ⟨rest, hrest, h⟩ := bind_eq_ok h
    cases h
    exact .condition hp (ihb hinner) (ihr hrest)
  | callBroken t fault hp =>
    rw [read_call_broken pos hp] at h
    cases h
  | call t p hp iha ihr =>
    rw [read_call pos hp, fill_none_call, intercalate_arguments] at h
    obtain ⟨rest, hrest, rfl⟩ := map_eq_ok h
    exact .call hp (ihr hrest)
  | value t hname ih =>
    rw [read_value pos hname, fill_none_value] at h
    obtain ⟨rest, hrest, rfl⟩ := map_eq_ok h
    exact .value (ih hrest)
  | dollar t hname ih =>
    rw [read_dollar pos hname] at h
    obtain ⟨rest, hrest, rfl⟩ := map_eq_ok h
    have hrest' : Settles (t.drop (valueName t).length) rest := by simpa [hname] using ih hrest
    have hvalue : Settles ('$' :: t) ('$' :: valueName t ++ rest) := .value hrest'
    rwa [hname] at hvalue
  | literal c t hc ih =>
    rw [read_literal pos hc] at h
    obtain ⟨rest, hrest, rfl⟩ := map_eq_ok h
    exact .literal hc (ih hrest)

theorem Settles.fill {t out : Text} (h : Settles t out) (pos : Nat) :
    (read pos t).fill .none = .ok out := by
  induction h generalizing pos with
  | nil =>
    rw [read_nil]
    rfl
  | literal hc _ ih =>
    rw [read_literal pos hc, Template.fill, ih]
    rfl
  | @value t out _ ih =>
    by_cases hname : valueName t = []
    · rw [hname] at ih ⊢
      rw [read_dollar pos hname, Template.fill]
      exact congrArg _ (ih _)
    · rw [read_value pos hname, fill_none_value, ih]
      rfl
  | span hp _ _ ihb ihr =>
    rw [read_span pos hp, fill_none_span, ihb, ihr]
    rfl
  | condition hp _ _ ihb ihr =>
    rw [read_condition pos hp, fill_none_condition, ihb, ihr]
    rfl
  | call hp _ ih =>
    rw [read_call pos hp, fill_none_call, ih, intercalate_arguments]
    rfl

theorem settled_settled (color : Text) : settled (settled color) = settled color := by
  unfold settled
  split
  · rfl
  · rfl

theorem toLower_mem_of_agrees {color : Text} (h : Text.agrees color "auto") {c : Char}
    (hc : c ∈ color) : c.toLower ∈ ['a', 'u', 't', 'o'] := by
  have hmap : color.map Char.toLower = ['a', 'u', 't', 'o'] := eq_of_beq h
  rw [← hmap]
  exact List.mem_map_of_mem hc

theorem filter_settled (color : Text) {cs : List Char}
    (hcs : ∀ c ∈ cs, c.toLower ∉ ['a', 'u', 't', 'o']) :
    (settled color).filter (· ∈ cs) = color.filter (· ∈ cs) := by
  rw [settled]
  split
  · next h =>
    symm
    apply List.filter_eq_nil_iff.2
    intro c hc hmem
    exact hcs c (of_decide_eq_true hmem) (toLower_mem_of_agrees h hc)
  · rfl

theorem Settles.filter_eq {t out : Text} (h : Settles t out) {cs : List Char}
    (hcs : ∀ c ∈ cs, c.toLower ∉ ['a', 'u', 't', 'o']) :
    out.filter (· ∈ cs) = t.filter (· ∈ cs) := by
  induction h with
  | nil => rfl
  | @literal c t out _ _ ih => rw [List.filter_cons, List.filter_cons, ih]
  | @value t out _ ih =>
    conv_rhs => rw [← valueName_append_drop t]
    rw [List.cons_append, List.filter_cons, List.filter_cons, List.filter_append,
      List.filter_append, ih]
  | span hbracketed _ _ ihb ihr =>
    rw [bracketed_eq_ok hbracketed]
    simp only [List.cons_append, List.append_assoc, List.filter_cons, List.filter_append, ihb, ihr,
      filter_settled _ hcs]
  | condition hbraced _ _ ihb ihr =>
    rw [braced_eq_ok hbraced]
    simp only [List.cons_append, List.append_assoc, List.filter_cons, List.filter_append, ihb, ihr]
  | call hbraced _ ih =>
    rw [braced_eq_ok hbraced]
    simp only [List.cons_append, List.append_assoc, List.filter_cons, List.filter_append, ih]

theorem Settles.head?_eq {t out : Text} (h : Settles t out) : out.head? = t.head? := by
  cases h <;> rfl

theorem Settles.valueName_append {t out : Text} (h : Settles (t.drop (valueName t).length) out) :
    valueName (valueName t ++ out) = valueName t := by
  have hends : EndsNames out := by
    rw [EndsNames, h.head?_eq]
    exact endsNames_drop_valueName t
  rw [valueName_append_right hends, valueName_valueName]

/-- All directives of the output are delimited as they were in the template. -/
theorem Settles.again {t out : Text} (h : Settles t out) : Settles out out := by
  induction h with
  | nil => exact .nil
  | literal hc _ ih => exact .literal hc ih
  | @value t out hrest ih =>
    have hname : valueName (valueName t ++ out) = valueName t := hrest.valueName_append
    have hvalue : Settles ('$' :: (valueName t ++ out))
        ('$' :: valueName (valueName t ++ out) ++ out) := by
      apply Settles.value
      rwa [hname, List.drop_left]
    rwa [hname] at hvalue
  | @span t inner out p hp hbody _ ihb ihr =>
    have hcolon : ':' ∉ settled p.head := by
      rw [settled]
      split
      · exact List.not_mem_nil
      · exact (closed_of_bracketed hp).2
    have hagain := Settles.span (bracketed_congr hp hcolon (filter_settled p.head (by simp))
      (hbody.filter_eq (by simp)) out) ihb ihr
    rwa [settled_settled] at hagain
  | condition hp hbody _ ihb ihr =>
    have hagain := Settles.condition (braced_congr hp (hbody.filter_eq (by simp)) _) ihb ihr
    exact hagain
  | call hp _ ih =>
    have hagain := Settles.call (braced_congr hp rfl _) ih
    exact hagain

theorem Resolver.answers_unknowing (render : Renderer C) (scope : C) :
    Resolver.unknowing.answers render scope = .none := rfl

theorem Vocabulary.answers_empty (render : Renderer C) (scope : C) :
    Vocabulary.empty.resolver.answers render scope = .none := rfl

theorem render_eq_ok_iff_settles {r : Resolver C}
    (hr : ∀ render scope, r.answers render scope = .none) {depth : Nat} {t out : Text} {scope : C} :
    r.render (depth + 1) t scope = .ok out ↔ Settles t out := by
  rw [Resolver.render_succ, hr, mapError_eq_ok_iff]
  exact ⟨settles_of_fill, fun h => h.fill 0⟩

end Listing
