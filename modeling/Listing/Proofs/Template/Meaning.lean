import Listing.Proofs.Outcome
import Listing.Proofs.Template.Draft

namespace Listing

variable {C : Type}

namespace Draft

def shade (q : Answers) (color : Text) (body : Draft) : Except RenderError Text :=
  if Text.agrees color "auto" then
    match Template.subject? body.print with
    | none => .ok []
    | some name => (·.getD []) <$> (q.color name).mapError .unresolved
  else .ok color

/-- What a tree stands for. Names without an answer stand for what they are written as. -/
def eval (q : Answers) : Draft → Except RenderError Text
  | done => .ok []
  | literal s rest => return s ++ (← eval q rest)
  | value name rest => do
    let answer ← (q.value name).mapError .unresolved
    return answer.getD ('$' :: name) ++ (← eval q rest)
  | span color body rest => do
    let color ← shade q color body
    return '[' :: color ++ ':' :: (← eval q body) ++ ']' :: (← eval q rest)
  | condition key body rest => do
    match ← (q.condition key).mapError .unresolved with
    | some true => return (← eval q body) ++ (← eval q rest)
    | some false => eval q rest
    | none => return '?' :: key ++ '{' :: (← eval q body) ++ '}' :: (← eval q rest)
  | call name args rest => do
    let answer ← q.call name (args.map print)
    return answer.getD ('@' :: name ++ '{' :: ['@'].intercalate (args.map print) ++ ['}']) ++
      (← eval q rest)

/-- The tree that reading gives for what is written. -/
def tree : Draft → Template
  | done => .done
  | literal s rest => s.foldr .literal rest.tree
  | value name rest => .value name rest.tree
  | span color body rest => .span color (Template.subject? body.print) body.tree rest.tree
  | condition key body rest => .condition key body.tree rest.tree
  | call name args rest => .call name (args.map print) none rest.tree

theorem defect?_tree (d : Draft) : d.tree.defect? = none := by
  have hliteral (s : Text) (t : Template) : (s.foldr Template.literal t).defect? = t.defect? := by
    induction s with
    | nil => rfl
    | cons c s ih => exact ih
  fun_induction tree d with
  | case1 => rfl
  | case2 s rest ih => rw [hliteral, ih]
  | case3 name rest ih => exact ih
  | case4 color body rest ihb ihr => simp [Template.defect?, ihb, ihr]
  | case5 key body rest ihb ihr => simp [Template.defect?, ihb, ihr]
  | case6 name args rest ih => simp [Template.defect?, ih]

theorem read_literals {s : Text} (hs : ∀ c ∈ s, c ∉ ['[', '?', '@', '$']) (pos : Nat) (t : Text) :
    Template.read pos (s ++ t) = s.foldr .literal (Template.read (pos + s.size) t) := by
  induction s generalizing pos with
  | nil => rfl
  | cons c s ih =>
    have hc : c ∉ ['[', '?', '@', '$'] := hs c (by simp)
    rw [List.cons_append, Template.read_literal pos hc, ih (fun x hx => hs x (by simp [hx])),
      List.foldr_cons, Text.size_cons, Nat.add_assoc]

theorem valueName_append {name : Text} (hname : IsName name) {rest : Draft}
    (hend : rest.partsName = true) : Template.valueName (name ++ rest.print) = name := by
  have hall : ∀ c ∈ name, (!Text.isBlank c) = true := fun c hc => by simp [(hname.2 c hc).1]
  have hstop : rest.print.takeWhile (fun c => !Text.isBlank c) = [] := by
    cases rest with
    | done => rfl
    | literal s rest =>
      cases s with
      | nil => simp [partsName] at hend
      | cons c s =>
        simp only [partsName] at hend
        simp [print, hend]
    | _ => simp [partsName] at hend
  rw [Template.valueName, List.takeWhile_append_of_pos hall, hstop, List.append_nil]

theorem WellFormed.read_print {d : Draft} (h : d.WellFormed) (pos : Nat) :
    Template.read pos d.print = d.tree := by
  induction h generalizing pos with
  | done => exact Template.read_nil pos
  | @literal s rest hs _ ih =>
    have hsub : ['[', '?', '@', '$'] ⊆ '?' :: '$' :: '@' :: Template.delimiters := by
      simp [Template.delimiters]
    rw [print, read_literals (fun c hc hm => hs c hc (hsub hm)), ih, tree]
  | @value name rest hname hend _ ih =>
    have hn : Template.valueName (name ++ rest.print) = name := valueName_append hname hend
    rw [print, List.cons_append, Template.read_value pos (by rw [hn]; exact hname.1), hn,
      List.drop_left, ih, tree]
  | @span color body rest hcolor hbody _ ihb ihr =>
    have hmarks : ∀ c ∈ color, c ∉ Template.delimiters :=
      fun c hc hm => hcolor c hc (by simp [hm])
    have hcolon : ':' ∉ color := fun hm => hcolor ':' hm (by simp)
    have hp := Template.bracketed_append hmarks hcolon hbody.nested rest.print
    have hl : (Draft.span color body rest).print =
        '[' :: (color ++ ':' :: body.print ++ ']' :: rest.print) := by simp [print]
    rw [hl, Template.read_span pos hp, ihb, ihr, tree]
  | @condition key body rest hkey hbody _ ihb ihr =>
    have hbrace : '{' ∉ key := fun hm => hkey '{' hm (by decide)
    have hp := Template.braced_append hbrace hbody.nested rest.print
    have hl : (Draft.condition key body rest).print =
        '?' :: (key ++ '{' :: body.print ++ '}' :: rest.print) := by simp [print]
    rw [hl, Template.read_condition pos hp, ihb, ihr, tree]
  | @call name args rest hname hne hargs hcall _ iha ihr =>
    have hbrace : '{' ∉ name := fun hm => (hname.2 '{' hm).2 (by decide)
    have hinner := nested_arguments fun a ha => (hargs a ha).nested
    have hp := Template.braced_append hbrace hinner rest.print
    have hl : (Draft.call name args rest).print =
        '@' :: (name ++ '{' :: ['@'].intercalate (printAll args) ++ '}' :: rest.print) := by
      simp [print]
    have hflaw : ((Template.located (pos + name.size + 2) (args.map print)).findSome? fun x =>
        (Template.read x.1 x.2).defect?) = none := by
      apply List.findSome?_eq_none_iff.2
      intro x hx
      obtain ⟨a, ha, hprint⟩ := List.mem_map.1 (Template.mem_of_mem_located hx)
      rw [← hprint, iha a ha, defect?_tree]
    rw [hl, Template.read_call pos hp, arguments_print hne hargs hcall, hflaw, ihr, tree]

theorem fill_literals (q : Answers) (s : Text) (t : Template) :
    (s.foldr .literal t).fill q = (s ++ ·) <$> t.fill q := by
  induction s with
  | nil => cases hfill : t.fill q <;> exact hfill
  | cons c s ih =>
    rw [List.foldr_cons, Template.fill, ih]
    cases t.fill q <;> rfl

theorem spanColor_subject? (q : Answers) (color : Text) (body : Draft) :
    Template.spanColor q color (Template.subject? body.print) =
      (shade q color body).mapError .failed := by
  unfold Template.spanColor shade
  by_cases ha : Text.agrees color "auto"
  · rw [if_pos ha, if_pos ha]
    cases Template.subject? body.print with
    | none => rfl
    | some name =>
      simp only [Template.ask]
      cases q.color name <;> rfl
  · rw [if_neg ha, if_neg ha]
    rfl

theorem fill_tree (q : Answers) (d : Draft) :
    d.tree.fill q = (d.eval q).mapError .failed := by
  fun_induction tree d with
  | case1 => rfl
  | case2 s rest ih =>
    rw [fill_literals, ih, eval, mapError_bind]
    cases eval q rest <;> rfl
  | case3 name rest ih =>
    rw [Template.fill, ih, eval, mapError_bind, mapError_mapError]
    simp only [mapError_bind]
    rfl
  | case4 color body rest ihb ihr =>
    rw [Template.fill, ihb, ihr, eval, mapError_bind, spanColor_subject?]
    simp only [mapError_bind]
    rfl
  | case5 key body rest ihb ihr =>
    rw [Template.fill, ihb, ihr, eval, mapError_bind, mapError_mapError, Template.ask]
    congr 1
    funext answer
    match answer with
    | none | some true =>
      simp only [mapError_bind]
      rfl
    | some false => rfl
  | case6 name args rest ih =>
    rw [Template.fill, ih, eval, mapError_bind]
    simp only [mapError_bind]
    rfl

/-- What is written can be validated, and renders to what it means: the names are answered by the
resolver, which renders the arguments of calls itself, down to the depth that is left. -/
theorem render_print_eq_eval {d : Draft} (h : d.WellFormed) (r : Resolver C) (depth : Nat)
    (scope : C) :
    Template.validate d.print = .ok () ∧
      r.render (depth + 1) d.print scope = d.eval (r.answers (r.render depth) scope) := by
  have hread : Template.ofText d.print = d.tree := h.read_print 0
  constructor
  · rw [Template.validate, hread, defect?_tree]
  · rw [Resolver.render_succ, hread, fill_tree, mapError_mapError]
    simp only [Interrupt.within]
    cases d.eval (r.answers (r.render depth) scope) <;> rfl

def sample : Draft :=
  .span "AUTO" (.literal "#" (.value "n" .done)) (.literal " " (.condition "k"
    (.span "Red" (.value "m" (.literal " b" .done)) .done)
    (.call "f" [.value "a" .done, .literal ", " .done, .call "g" [.done] .done] .done)))

def counting : Resolver Unit where
  value name _ := .ok (if name = "n" then some "[7]" else none)
  color name _ := .ok (if name = "n" then some "Blue" else none)
  condition key _ := .ok (if key = "k" then some true else none)
  call _ args _ _ := .ok (some (Text.decimal args.length))

theorem wellFormed_sample : sample.WellFormed := by
  have hargs : ∀ a ∈ [Draft.value "a" .done, .literal ", " .done, .call "g" [.done] .done],
      a.WellFormed := by
    intro a ha
    simp only [List.mem_cons, List.not_mem_nil, or_false] at ha
    obtain rfl | rfl | rfl := ha
    · exact .value (by decide) rfl .done
    · exact .literal (by simp [Template.delimiters]) .done
    · exact .call (by decide) (by decide) (by simpa using .done) (by decide) .done
  have hspan : (Draft.span "Red" (.value "m" (.literal " b" .done)) .done).WellFormed := by
    refine .span (by simp [Template.delimiters]) (.value (by decide) rfl ?_) .done
    exact .literal (by simp [Template.delimiters]) .done
  refine .span (by simp [Template.delimiters])
    (.literal (by simp [Template.delimiters]) (.value (by decide) rfl .done)) ?_
  refine .literal (by simp [Template.delimiters])
    (.condition (by simp [Template.delimiters]) hspan ?_)
  exact .call (by decide) (by decide) hargs (by decide) .done

theorem render_print_sample :
    sample.WellFormed ∧
      Template.validate "[AUTO:#$n] ?k\x7b[Red:$m b]\x7d@f\x7b$a@, @@g\x7b\x7d\x7d" = .ok () ∧
      counting.render 1 "[AUTO:#$n] ?k\x7b[Red:$m b]\x7d@f\x7b$a@, @@g\x7b\x7d\x7d" () =
        .ok "[Blue:#[7]] [Red:$m b]3" :=
  have h := render_print_eq_eval wellFormed_sample counting 0 ()
  ⟨wellFormed_sample, h.1, h.2.trans rfl⟩

end Draft

end Listing
