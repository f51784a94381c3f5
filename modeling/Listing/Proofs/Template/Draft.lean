import Listing.Proofs.Template.Joined
import Listing.Render.Resolver

namespace Listing

variable {C : Type}

/-- Each node but the last holds what follows it in the same body. A call has a tree for each of its
arguments. -/
inductive Draft
  | done
  | literal (s : Text) (rest : Draft)
  | value (name : Text) (rest : Draft)
  | span (color : Text) (body rest : Draft)
  | condition (key : Text) (body rest : Draft)
  | call (name : Text) (args : List Draft) (rest : Draft)

namespace Draft

mutual

def print : Draft → Text
  | done => []
  | literal s rest => s ++ rest.print
  | value name rest => '$' :: name ++ rest.print
  | span color body rest => '[' :: color ++ ':' :: body.print ++ ']' :: rest.print
  | condition key body rest => '?' :: key ++ '{' :: body.print ++ '}' :: rest.print
  | call name args rest =>
    '@' :: name ++ '{' :: ['@'].intercalate (printAll args) ++ '}' :: rest.print

def printAll : List Draft → List Text
  | [] => []
  | a :: as => a.print :: printAll as

end

theorem printAll_eq_map (as : List Draft) : printAll as = as.map print := by
  induction as with
  | nil => rfl
  | cons a as ih => rw [printAll, ih, List.map_cons]

/-- A name reaches up to a blank, so the end of its body or a blank literal has to follow it. -/
def partsName : Draft → Bool
  | done => true
  | literal (c :: _) _ => Text.isBlank c
  | _ => false

def IsName (name : Text) : Prop :=
  name ≠ [] ∧ ∀ c ∈ name, Text.isBlank c = false ∧ c ∉ '@' :: Template.delimiters

instance (name : Text) : Decidable (IsName name) :=
  @instDecidableAnd _ _ _ (List.decidableBAll _ name)

/-- Each kind of node keeps out the characters that would end it early. An argument after the first
must not make a call of the separator in front of it. -/
inductive WellFormed : Draft → Prop
  | done : WellFormed done
  | literal {s : Text} {rest : Draft} (hs : ∀ c ∈ s, c ∉ '?' :: '$' :: '@' :: Template.delimiters)
      (hrest : WellFormed rest) : WellFormed (literal s rest)
  | value {name : Text} {rest : Draft} (hname : IsName name) (hend : rest.partsName = true)
      (hrest : WellFormed rest) : WellFormed (value name rest)
  | span {color : Text} {body rest : Draft}
      (hcolor : ∀ c ∈ color, c ∉ ':' :: '@' :: Template.delimiters) (hbody : WellFormed body)
      (hrest : WellFormed rest) : WellFormed (span color body rest)
  | condition {key : Text} {body rest : Draft} (hkey : ∀ c ∈ key, c ∉ '@' :: Template.delimiters)
      (hbody : WellFormed body) (hrest : WellFormed rest) : WellFormed (condition key body rest)
  | call {name : Text} {args : List Draft} {rest : Draft} (hname : IsName name) (hne : args ≠ [])
      (hargs : ∀ a ∈ args, WellFormed a)
      (hcall : ∀ a ∈ args.tail, ¬Template.LooksLikeCall a.print)
      (hrest : WellFormed rest) : WellFormed (call name args rest)

theorem nested_arguments {args : List Draft} (h : ∀ a ∈ args, Template.Nested a.print) :
    Template.Nested (['@'].intercalate (printAll args)) := by
  apply Template.nested_intercalate (.plain (by decide) .nil)
  rw [printAll_eq_map]
  simpa using h

theorem WellFormed.nested {d : Draft} (h : d.WellFormed) : Template.Nested d.print := by
  have hplain (marks : Text) {s : Text} (hs : ∀ c ∈ s, c ∉ marks ++ Template.delimiters) :
      Template.Nested s :=
    Template.nested_of_not_mem fun c hc hd => hs c hc (List.mem_append_right _ hd)
  induction h with
  | done => exact .nil
  | literal hs _ ih => exact (hplain ['?', '$', '@'] hs).append ih
  | value hname _ _ ih =>
    exact .plain (by decide) ((hplain ['@'] fun c hc => (hname.2 c hc).2).append ih)
  | @span color body rest hcolor _ _ ihb ihr =>
    have hinner : Template.Nested (color ++ ':' :: body.print) :=
      (hplain [':', '@'] hcolor).append (.plain (by decide) ihb)
    simpa [print] using Template.Nested.brackets hinner ihr
  | @condition key body rest hkey _ _ ihb ihr =>
    have hhead : Template.Nested ('?' :: key) := .plain (by decide) (hplain ['@'] hkey)
    simpa [print] using hhead.append (.braces ihb ihr)
  | @call name args rest hname _ _ _ _ iha ihr =>
    have hhead : Template.Nested ('@' :: name) :=
      .plain (by decide) (hplain ['@'] fun c hc => (hname.2 c hc).2)
    simpa [print] using hhead.append (.braces (nested_arguments iha) ihr)

theorem IsName.inCallName {name : Text} (h : IsName name) :
    ∀ c ∈ name, Template.InCallName c := by
  intro c hc
  obtain ⟨hblank, hmarks⟩ := h.2 c hc
  simp only [Template.delimiters, List.mem_cons, not_or] at hmarks
  exact ⟨hblank, hmarks.1, hmarks.2.2.2.1⟩

theorem WellFormed.whole {d : Draft} (h : d.WellFormed) : Template.Whole d.print := by
  induction h with
  | done => exact Template.whole_nil
  | literal hs _ ih =>
    have hwhole := Template.whole_of_not_mem fun c hc hm => hs c hc (by simp [List.mem_cons.1 hm])
    exact hwhole.append ih
  | value hname _ _ ih =>
    exact (Template.whole_of_not_mem fun c hc => (hname.2 c hc).2).append ih |>.cons (by decide)
  | @span color body rest hcolor hbody _ _ ihr =>
    have hinner : Template.Nested (color ++ ':' :: body.print) :=
      (Template.nested_of_not_mem fun c hc hm => hcolor c hc (by simp [hm])).append
        (.plain (by decide) hbody.nested)
    simpa [print] using (Template.whole_brackets hinner).append ihr
  | @condition key body rest hkey hbody _ _ ihr =>
    have hhead : Template.Whole ('?' :: key) := (Template.whole_of_not_mem hkey).cons (by decide)
    simpa [print] using (hhead.append (Template.whole_braces hbody.nested)).append ihr
  | @call name args rest hname _ hargs _ _ _ ihr =>
    have hinner := nested_arguments fun a ha => (hargs a ha).nested
    simpa [print] using (Template.whole_call hname.1 hname.inCallName hinner).append ihr

theorem arguments_print {args : List Draft} (hne : args ≠ []) (hargs : ∀ a ∈ args, a.WellFormed)
    (hcall : ∀ a ∈ args.tail, ¬Template.LooksLikeCall a.print) :
    Template.arguments (['@'].intercalate (printAll args)) = args.map print := by
  rw [printAll_eq_map]
  apply Template.arguments_intercalate
  · simpa using hne
  · simpa using fun a ha => (hargs a ha).whole
  · simpa [← List.map_tail] using hcall

end Draft

end Listing
