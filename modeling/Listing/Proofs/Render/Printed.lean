import Listing.Proofs.Paint.Prints
import Listing.Proofs.Template.Meaning

namespace Listing

variable {C : Type} {p : Palette} {q : Answers}

namespace Draft

def PrintsAs (p : Palette) (q : Answers) (d : Draft) (plain : Text) : Prop :=
  ∃ out, d.eval q = .ok out ∧ Prints p out plain

namespace PrintsAs

variable {rest : Draft} {x y : Text}

theorem done : Draft.done.PrintsAs p q [] := ⟨[], rfl, .nil⟩

theorem literal {s : Text} (hs : Unmarked s) (hrest : rest.PrintsAs p q y) :
    (Draft.literal s rest).PrintsAs p q (s ++ y) := by
  obtain ⟨u, hu, hprints⟩ := hrest
  refine ⟨s ++ u, ?_, (Prints.literal hs).append hprints⟩
  rw [eval, hu]
  rfl

theorem value {name t : Text} (hq : q.value name = .ok (some t)) (ht : Prints p t x)
    (hrest : rest.PrintsAs p q y) : (Draft.value name rest).PrintsAs p q (x ++ y) := by
  obtain ⟨u, hu, hprints⟩ := hrest
  refine ⟨t ++ u, ?_, ht.append hprints⟩
  rw [eval, hq, hu]
  rfl

theorem value_done {name t : Text} (hq : q.value name = .ok (some t)) (ht : Prints p t x) :
    (Draft.value name .done).PrintsAs p q x := by
  have h : (Draft.value name .done).PrintsAs p q (x ++ []) := .value hq ht .done
  rwa [List.append_nil] at h

theorem span {color : Text} {body : Draft}
    (hcolor : ∃ k, shade q color body = .ok k ∧ IsColor p k) (hbody : body.PrintsAs p q x)
    (hrest : rest.PrintsAs p q y) : (Draft.span color body rest).PrintsAs p q (x ++ y) := by
  obtain ⟨k, hk, hcolor⟩ := hcolor
  obtain ⟨t, ht, htprints⟩ := hbody
  obtain ⟨u, hu, huprints⟩ := hrest
  refine ⟨'[' :: k ++ ':' :: t ++ ']' :: u, ?_, ?_⟩
  · rw [eval, hk, ht, hu]
    rfl
  · simpa using (htprints.span hcolor).append huprints

theorem condition {key : Text} {b : Bool} {body : Draft} (hq : q.condition key = .ok (some b))
    (hbody : body.PrintsAs p q x) (hrest : rest.PrintsAs p q y) :
    (Draft.condition key body rest).PrintsAs p q (if b then x ++ y else y) := by
  obtain ⟨t, ht, htprints⟩ := hbody
  obtain ⟨u, hu, huprints⟩ := hrest
  cases b with
  | true =>
    refine ⟨t ++ u, ?_, htprints.append huprints⟩
    rw [eval, hq, ht, hu]
    rfl
  | false =>
    refine ⟨u, ?_, huprints⟩
    rw [eval, hq, hu]
    rfl

theorem call {name t : Text} {args : List Draft} (hq : q.call name (args.map print) = .ok (some t))
    (ht : Prints p t x) (hrest : rest.PrintsAs p q y) :
    (Draft.call name args rest).PrintsAs p q (x ++ y) := by
  obtain ⟨u, hu, hprints⟩ := hrest
  refine ⟨t ++ u, ?_, ht.append hprints⟩
  rw [eval, hq, hu]
  rfl

end PrintsAs

theorem exists_shade {color : Text} (hcolor : Text.agrees color "auto" = false → IsColor p color)
    (hq : ∀ name, ∃ k, q.color name = .ok k ∧ IsColor p (k.getD [])) (body : Draft) :
    ∃ k, shade q color body = .ok k ∧ IsColor p k := by
  unfold shade
  split
  · cases Template.subject? body.print with
    | none => exact ⟨[], rfl, isColor_nil⟩
    | some name =>
      obtain ⟨k, hk, hk'⟩ := hq name
      refine ⟨k.getD [], ?_, hk'⟩
      simp only [hk]
      rfl
  · next hauto => exact ⟨color, rfl, hcolor (by simpa using hauto)⟩

def auto (name : Text) (rest : Draft) : Draft := .span "auto" (.value name .done) rest

theorem WellFormed.auto {name : Text} {rest : Draft} (hname : IsName name)
    (hrest : rest.WellFormed) : (Draft.auto name rest).WellFormed :=
  .span (by simp [Template.delimiters]) (.value hname rfl .done) hrest

theorem subject?_name {name : Text} (hname : IsName name) :
    Template.subject? ('$' :: name) = some name := by
  have hall : ∀ c ∈ name, (!Template.endsSubject c) = true := by
    intro c hc
    have h := hname.2 c hc
    simp_all [Template.endsSubject, Template.delimiters]
  have htake : (name ++ []).takeWhile (fun c => !Template.endsSubject c) = name ++ [] :=
    List.takeWhile_append_of_pos hall
  rw [List.append_nil] at htake
  rw [Template.subject?, if_pos rfl, htake]
  cases name with
  | nil => exact absurd rfl hname.1
  | cons c name => rfl

theorem eval_auto {name t : Text} {k : Option Text} (hname : IsName name)
    (hcolor : q.color name = .ok k) (hvalue : q.value name = .ok (some t)) :
    (auto name .done).eval q = .ok ('[' :: k.getD [] ++ ':' :: t ++ [']']) := by
  have hshade : shade q "auto" (.value name .done) = .ok (k.getD []) := by
    have hauto : Text.agrees "auto" "auto" = true := rfl
    have hprint : (Draft.value name .done).print = '$' :: name := List.append_nil _
    rw [shade, if_pos hauto, hprint, subject?_name hname]
    simp only [hcolor]
    rfl
  have hbody : (Draft.value name .done).eval q = .ok t := by
    rw [eval, hvalue]
    exact congrArg Except.ok (List.append_nil t)
  rw [auto, eval, hshade, hbody]
  rfl

theorem PrintsAs.auto {name t x y : Text} {rest : Draft}
    (hq : ∀ name, ∃ k, q.color name = .ok k ∧ IsColor p (k.getD []))
    (hvalue : q.value name = .ok (some t)) (ht : Prints p t x) (hrest : rest.PrintsAs p q y) :
    (Draft.auto name rest).PrintsAs p q (x ++ y) := by
  have hcolor : ∃ k, shade q "auto" (.value name .done) = .ok k ∧ IsColor p k :=
    exists_shade (fun h => by cases h) hq _
  exact .span hcolor (.value_done hvalue ht) hrest

theorem WellFormed.validate_print {d : Draft} (h : d.WellFormed) :
    Template.validate d.print = .ok () := by
  have hread : Template.ofText d.print = d.tree := h.read_print 0
  rw [Template.validate, hread, defect?_tree]

theorem WellFormed.render_print {d : Draft} (h : d.WellFormed) {r : Resolver C} {depth : Nat}
    {scope : C} {out : Text} (heval : d.eval (r.answers (r.render depth) scope) = .ok out) :
    r.render (depth + 1) d.print scope = .ok out := by
  have hread : Template.ofText d.print = d.tree := h.read_print 0
  rw [Resolver.render_succ, hread, fill_tree, heval]
  rfl

end Draft

end Listing
