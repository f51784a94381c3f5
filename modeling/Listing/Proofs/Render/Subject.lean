import Mathlib
import Listing.Proofs.Render.Noted
import Listing.Proofs.Template.Draft

namespace Listing

namespace Draft

/-- The characters that no part of a tree but the names of its values may have. -/
def marks : List Char := '?' :: '$' :: '@' :: Template.delimiters

def IsPlain (s : Text) : Prop := ∀ c ∈ s, c ∉ marks

instance (s : Text) : Decidable (IsPlain s) := List.decidableBAll _ s

/-- Each part is free of the characters that mean something, and a name is followed by a blank or by
the end of its body. Calls have any number of arguments. -/
inductive Spelled : Draft → Prop
  | done : Spelled done
  | literal {s : Text} {rest : Draft} (hs : IsPlain s) (hrest : Spelled rest) :
      Spelled (literal s rest)
  | value {name : Text} {rest : Draft} (hname : IsName name)
      (hend : ∀ c ∈ rest.print.head?, Text.isBlank c = true) (hrest : Spelled rest) :
      Spelled (value name rest)
  | span {color : Text} {body rest : Draft} (hcolor : IsPlain color)
      (hbody : Spelled body) (hrest : Spelled rest) : Spelled (span color body rest)
  | condition {key : Text} {body rest : Draft} (hkey : IsPlain key)
      (hbody : Spelled body) (hrest : Spelled rest) : Spelled (condition key body rest)
  | call {name : Text} {args : List Draft} {rest : Draft} (hname : IsPlain name)
      (hargs : ∀ a ∈ args, Spelled a) (hrest : Spelled rest) : Spelled (call name args rest)

mutual

def values : Draft → List Text
  | done => []
  | literal _ rest => rest.values
  | value name rest => name :: rest.values
  | span _ body rest => body.values ++ rest.values
  | condition _ body rest => body.values ++ rest.values
  | call _ args rest => valuesAll args ++ rest.values

def valuesAll : List Draft → List Text
  | [] => []
  | a :: as => a.values ++ valuesAll as

end

def closedBy (c : Char) (lead : Text × Option Char) : Text × Option Char :=
  (lead.1, lead.2.or (some c))

mutual

def lead? : Draft → Option (Text × Option Char)
  | done => none
  | literal _ rest => rest.lead?
  | value name rest => some (name, rest.print.head?)
  | span _ body rest => (body.lead?.map (closedBy ']')).or rest.lead?
  | condition _ body rest => (body.lead?.map (closedBy '}')).or rest.lead?
  | call _ args rest => ((leadAmong? args).map (closedBy '}')).or rest.lead?

def leadAmong? : List Draft → Option (Text × Option Char)
  | [] => none
  | [a] => a.lead?
  | a :: b :: as => (a.lead?.map (closedBy '@')).or (leadAmong? (b :: as))

end

/-- The first value is the last thing in an argument that has a next one. -/
def EndsArgument (d : Draft) : Prop := ∃ name, d.lead? = some (name, some '@')

end Draft

namespace Template

/-- The first named value in a raw text, and the character behind it, which ends the name or is the
`@` behind an argument. -/
inductive HasLead : Text → Option (Text × Option Char) → Prop
  | absent {s : Text} : '$' ∉ s → HasLead s none
  | present {before name after : Text} : '$' ∉ before → Draft.IsName name →
      (∀ c ∈ after.head?, endsSubject c = true ∨ c = '@') →
      HasLead (before ++ '$' :: name ++ after) (some (name, after.head?))

theorem subject?_append {u : Text} (hu : '$' ∉ u) (t : Text) : subject? (u ++ t) = subject? t := by
  induction u with
  | nil => rfl
  | cons c u ih =>
    rw [List.mem_cons, not_or] at hu
    rw [List.cons_append, subject?, if_neg (Ne.symm hu.1), ih hu.2]

theorem subject?_name_append {name : Text} (hname : Draft.IsName name) (t : Text) :
    subject? ('$' :: name ++ t) = some (name ++ t.takeWhile fun c => !endsSubject c) := by
  have hall : ∀ c ∈ name, (!endsSubject c) = true := by
    intro c hc
    have h := hname.2 c hc
    simp_all [endsSubject, delimiters]
  obtain ⟨c, cs, hcons⟩ := List.exists_cons_of_ne_nil hname.1
  rw [List.cons_append, subject?, if_pos rfl, List.takeWhile_append_of_pos hall, hcons]
  rfl

namespace HasLead

variable {s t u name : Text} {c : Char} {next : Option Char}
  {lead lead' : Option (Text × Option Char)}

theorem behind (hu : '$' ∉ u) (h : HasLead s lead) : HasLead (u ++ s) lead := by
  cases h with
  | absent hs => exact .absent (by simp [hu, hs])
  | @present before name after hbefore hname hafter =>
    have hboth : '$' ∉ u ++ before := by simp [hu, hbefore]
    simpa using HasLead.present hboth hname hafter

theorem closed (hc : c ∈ [']', '}', '@']) (hs : HasLead s lead) (ht : HasLead t lead') :
    HasLead (s ++ c :: t) ((lead.map (Draft.closedBy c)).or lead') := by
  have hends : endsSubject c = true ∨ c = '@' := by
    simp only [List.mem_cons, List.not_mem_nil, or_false] at hc
    rcases hc with rfl | rfl | rfl
    · exact .inl (by decide)
    · exact .inl (by decide)
    · exact .inr rfl
  have hdollar : '$' ≠ c := fun h => absurd (h ▸ hc) (by decide)
  cases hs with
  | absent hs =>
    have hclosed : '$' ∉ s ++ [c] := by simp [hs, hdollar]
    simpa using ht.behind hclosed
  | @present before name after hbefore hname hafter =>
    have hhead : (after ++ c :: t).head? = after.head?.or (some c) := List.head?_append
    have hend : ∀ x ∈ (after ++ c :: t).head?, endsSubject x = true ∨ x = '@' := by
      cases after with
      | nil => simpa using hends
      | cons y ys => exact hafter
    have h := HasLead.present hbefore hname hend
    rw [hhead] at h
    simpa [Draft.closedBy] using h

theorem subject?_eq_none (h : HasLead s none) : subject? s = none := by
  cases h with
  | absent hs =>
    rw [← List.append_nil s, subject?_append hs]
    rfl

/-- The search finds the whole name and, if an argument ends behind it, more. -/
theorem subject?_eq_iff (h : HasLead s (some (name, next))) :
    subject? s = some name ↔ next ≠ some '@' := by
  cases h with
  | @present before name after hbefore hname hafter =>
    rw [List.append_assoc, subject?_append hbefore, subject?_name_append hname]
    cases after with
    | nil => simp
    | cons c after =>
      rcases hafter c rfl with hc | rfl
      · have hat : c ≠ '@' := fun h => absurd (h ▸ hc) (by decide)
        simp [hc, hat]
      · have hstop : endsSubject '@' = false := by decide
        simp [hstop]

theorem isSome_subject? (h : HasLead s (some (name, next))) : (subject? s).isSome := by
  cases h with
  | present hbefore hname _ =>
    rw [List.append_assoc, subject?_append hbefore, subject?_name_append hname]
    rfl

end HasLead

end Template

namespace Draft

theorem IsPlain.not_mem {s : Text} (hs : IsPlain s) : '$' ∉ s :=
  fun hm => hs '$' hm (by decide)

theorem IsPlain.nested {s : Text} (hs : IsPlain s) : Template.Nested s :=
  Template.nested_of_not_mem fun c hc hd => hs c hc (List.mem_append_right ['?', '$', '@'] hd)

theorem hasLead_arguments {args : List Draft} (h : ∀ a ∈ args, Template.HasLead a.print a.lead?) :
    Template.HasLead (['@'].intercalate (printAll args)) (leadAmong? args) := by
  induction args with
  | nil => exact .absent (by simp [printAll])
  | cons a args ih =>
    cases args with
    | nil => simpa [printAll, leadAmong?] using h a List.mem_cons_self
    | cons b bs =>
      have hrest := ih fun x hx => h x (List.mem_cons_of_mem a hx)
      rw [printAll, printAll, List.intercalate_cons_cons, leadAmong?, List.append_assoc]
      exact (h a List.mem_cons_self).closed (by decide) hrest

theorem Spelled.hasLead {d : Draft} (h : d.Spelled) : Template.HasLead d.print d.lead? := by
  induction h with
  | done => exact .absent List.not_mem_nil
  | literal hs _ ih => exact ih.behind hs.not_mem
  | @value name rest hname hend _ ih =>
    have hstop : ∀ c ∈ rest.print.head?, Template.endsSubject c = true ∨ c = '@' :=
      fun c hc => .inl (by simp [Template.endsSubject, hend c hc])
    exact Template.HasLead.present List.not_mem_nil hname hstop
  | @span color body rest hcolor _ _ ihb ihr =>
    have hhead : '$' ∉ '[' :: color ++ [':'] := by simp [hcolor.not_mem]
    simpa [print, lead?] using (ihb.closed (c := ']') (by decide) ihr).behind hhead
  | @condition key body rest hkey _ _ ihb ihr =>
    have hhead : '$' ∉ '?' :: key ++ ['{'] := by simp [hkey.not_mem]
    simpa [print, lead?] using (ihb.closed (c := '}') (by decide) ihr).behind hhead
  | @call name args rest hname _ _ iha ihr =>
    have hhead : '$' ∉ '@' :: name ++ ['{'] := by simp [hname.not_mem]
    have hargs := (hasLead_arguments iha).closed (c := '}') (by decide) ihr
    simpa [print, lead?] using hargs.behind hhead

theorem Spelled.nested {d : Draft} (h : d.Spelled) : Template.Nested d.print := by
  induction h with
  | done => exact .nil
  | literal hs _ ih => exact hs.nested.append ih
  | value hname _ _ ih =>
    have hnested : Template.Nested _ := Template.nested_of_not_mem fun c hc hd =>
      (hname.2 c hc).2 (List.mem_cons_of_mem _ hd)
    exact .plain (by decide) (hnested.append ih)
  | @span color body rest hcolor _ _ ihb ihr =>
    have hinner : Template.Nested (color ++ ':' :: body.print) :=
      hcolor.nested.append (.plain (by decide) ihb)
    simpa [print] using Template.Nested.brackets hinner ihr
  | @condition key body rest hkey _ _ ihb ihr =>
    have hhead : Template.Nested ('?' :: key) := .plain (by decide) hkey.nested
    simpa [print] using hhead.append (.braces ihb ihr)
  | @call name args rest hname _ _ iha ihr =>
    have hhead : Template.Nested ('@' :: name) := .plain (by decide) hname.nested
    simpa [print] using hhead.append (.braces (nested_arguments iha) ihr)

theorem map_fst_closedBy (c : Char) (lead : Option (Text × Option Char)) :
    (lead.map (closedBy c)).map Prod.fst = lead.map Prod.fst := by
  cases lead <;> rfl

theorem head?_valuesAll {args : List Draft}
    (h : ∀ a ∈ args, a.values.head? = a.lead?.map Prod.fst) :
    (valuesAll args).head? = (leadAmong? args).map Prod.fst := by
  induction args with
  | nil => rfl
  | cons a args ih =>
    have ha := h a List.mem_cons_self
    cases args with
    | nil => simpa [valuesAll, leadAmong?] using ha
    | cons b bs =>
      have hrest := ih fun x hx => h x (List.mem_cons_of_mem a hx)
      rw [valuesAll, leadAmong?, List.head?_append, Option.map_or, map_fst_closedBy, ha, hrest]

theorem Spelled.head?_values {d : Draft} (h : d.Spelled) :
    d.values.head? = d.lead?.map Prod.fst := by
  induction h with
  | done => rfl
  | literal _ _ ih => exact ih
  | value => rfl
  | span _ _ _ ihb ihr | condition _ _ _ ihb ihr =>
    rw [values, lead?, List.head?_append, Option.map_or, map_fst_closedBy, ihb, ihr]
  | call _ _ _ iha ihr =>
    rw [values, lead?, List.head?_append, Option.map_or, map_fst_closedBy, head?_valuesAll iha, ihr]

theorem Spelled.subject?_eq_none_iff {d : Draft} (h : d.Spelled) :
    Template.subject? d.print = none ↔ d.values = [] := by
  have hlead := h.hasLead
  rw [← List.head?_eq_none_iff, h.head?_values, Option.map_eq_none_iff]
  cases hd : d.lead? with
  | none =>
    rw [hd] at hlead
    simp [hlead.subject?_eq_none]
  | some lead =>
    rw [hd] at hlead
    have hsome := hlead.isSome_subject?
    simp [Option.ne_none_iff_isSome.2 hsome]

theorem Spelled.subject?_eq_head?_iff {d : Draft} (h : d.Spelled) :
    Template.subject? d.print = d.values.head? ↔ ¬d.EndsArgument := by
  have hlead := h.hasLead
  rw [h.head?_values, EndsArgument]
  cases hd : d.lead? with
  | none =>
    rw [hd] at hlead
    simp [hlead.subject?_eq_none]
  | some lead =>
    obtain ⟨name, next⟩ := lead
    rw [hd] at hlead
    simp [hlead.subject?_eq_iff]

end Draft

def Oracle.colorOf {κ ε W : Type} (o : Oracle κ ε W) : Option Text → Noted κ ε Text
  | none => pure []
  | some name => o.color name

theorem Template.traverse_automatic {κ ε W : Type} [Append W] (o : Oracle κ ε W)
    (subject : Option Text) (body rest : Template) :
    (span "auto" subject body rest).traverse o = o.colorOf subject >>= fun color =>
      o.framed ('[' :: color ++ [':']) [']'] (body.traverse o) ++ rest.traverse o := by
  have hcolor : o.spanColor "auto" subject = o.colorOf subject := by
    cases subject <;> rfl
  rw [traverse, hcolor]

/-- An automatic span asks for the color of the first value in its body, where this value does not
end an argument that has a next one. It asks for none exactly when its body has no values. -/
theorem automatic_span_asks_for_first_value {d : Draft} (h : d.Spelled) :
    (Template.subject? d.print = d.values.head? ↔ ¬d.EndsArgument) ∧
    (Template.subject? d.print = none ↔ d.values = []) ∧
    ∀ (q : Answers) (pos : Nat) (rest : Text),
      (Template.read pos ("[auto:" ++ d.print ++ ']' :: rest)).traverse q.oracle =
        q.oracle.colorOf (Template.subject? d.print) >>= fun color =>
          q.oracle.framed ('[' :: color ++ [':']) [']']
            ((Template.read (pos + 6) d.print).traverse q.oracle) ++
          (Template.read (pos + 7 + d.print.size) rest).traverse q.oracle := by
  refine ⟨h.subject?_eq_head?_iff, h.subject?_eq_none_iff, fun q pos rest => ?_⟩
  have hp : Template.bracketed ("auto" ++ ':' :: d.print ++ ']' :: rest) =
      .ok ⟨"auto", d.print, rest⟩ :=
    Template.bracketed_append (by simp [Template.delimiters]) (by decide) h.nested rest
  have hsize : Text.size "auto" = 4 := rfl
  have hread := Template.read_span pos hp
  rw [hsize] at hread
  have hafter : pos + 4 + d.print.size + 3 = pos + 7 + d.print.size := by omega
  rw [hafter] at hread
  rw [← Template.traverse_automatic, ← hread]
  rfl

def separatedLabels : Draft := .call "labels" [.value "label" .done, .literal ", " .done] .done

theorem spelled_separatedLabels : separatedLabels.Spelled := by
  refine .call (by decide) ?_ .done
  simp only [List.forall_mem_cons]
  exact ⟨.value (by decide) nofun .done, .literal (by decide) .done, nofun⟩

def numberBeforeLabels : Draft :=
  .literal "# " (.condition "open" (.span "Red" (.value "number" (.literal " " .done)) .done)
    separatedLabels)

theorem numberBeforeLabels_asks_for_number :
    numberBeforeLabels.print =
      ("# ?open\x7b[Red:$number ]\x7d@labels\x7b$label@, \x7d" : Text) ∧
    numberBeforeLabels.Spelled ∧ ¬numberBeforeLabels.EndsArgument ∧
    Template.subject? numberBeforeLabels.print = some ("number" : Text) ∧
    ∀ (q : Answers) (rest : Text),
      (Template.read 0 ("[auto:" ++ numberBeforeLabels.print ++ ']' :: rest)).traverse q.oracle =
        q.oracle.color "number" >>= fun color =>
          q.oracle.framed ('[' :: color ++ [':']) [']']
            ((Template.read 6 numberBeforeLabels.print).traverse q.oracle) ++
          (Template.read 48 rest).traverse q.oracle := by
  have hnumber : Draft.Spelled (.value "number" (.literal " " .done)) :=
    .value (by decide) (fun c hc => by cases hc; rfl) (.literal (by decide) .done)
  have hopen : Draft.Spelled (.condition "open" (.span "Red" _ .done) separatedLabels) :=
    .condition (by decide) (.span (by decide) hnumber .done) spelled_separatedLabels
  have hspelled : numberBeforeLabels.Spelled := .literal (by decide) hopen
  have hends : ¬numberBeforeLabels.EndsArgument := fun ⟨name, h⟩ => by cases h
  obtain ⟨hfirst, -, htraverse⟩ := automatic_span_asks_for_first_value hspelled
  have hsubject : Template.subject? numberBeforeLabels.print = some ("number" : Text) :=
    hfirst.2 hends
  refine ⟨by cbv, hspelled, hends, hsubject, fun q rest => ?_⟩
  have h := htraverse q 0 rest
  rw [hsubject] at h
  exact h

def labelling : Resolver Unit where
  value name _ := .ok (if name = "label" then some "bug" else none)
  color name _ := .ok (if name = "label" then some "Red" else none)
  call _ args s render := some <$> render args.headI s

/-- The separator behind the value is taken for a part of its name, so that no color is found. -/
theorem value_before_separator_gets_no_color : separatedLabels.Spelled ∧
    separatedLabels.values.head? = some ("label" : Text) ∧
    Template.subject? separatedLabels.print = some ("label@," : Text) ∧
    labelling.render 2 "[auto:@labels\x7b$label@, \x7d]" () = .ok "[:bug]" ∧
    labelling.render 2 "[auto:@labels\x7b$label\x7d]" () = .ok "[Red:bug]" :=
  ⟨spelled_separatedLabels, by cbv, by cbv, by decide +kernel, by decide +kernel⟩

end Listing
