import Mathlib
import Listing.Proofs.Render.Noted

namespace Listing

variable {C α α' β β' : Type}

inductive Query
  | value (name : Text)
  | color (name : Text)
  | condition (key : Text)
  | call (name : Text) (args : List Text)
  deriving DecidableEq

namespace Event

def query : Event → Query
  | value name _ => .value name
  | color name _ => .color name
  | condition key _ => .condition key
  | call name args _ => .call name args

def text? : Event → Option Text
  | value _ answer => answer
  | call _ _ answer => answer
  | _ => none

end Event

/-- All that can be said about the answers to the queries of a template, but for the texts that they
put into the output. -/
structure Decisions where
  knows : Text → Bool
  color : Text → Option Text
  condition : Text → Option Bool
  answers : Text → List Text → Bool

def Answers.Follows (q : Answers) (D : Decisions) : Query → Prop
  | .value name => ∃ answer, q.value name = .ok answer ∧ answer.isSome = D.knows name
  | .color name => q.color name = .ok (D.color name)
  | .condition key => q.condition key = .ok (D.condition key)
  | .call name args => ∃ answer, q.call name args = .ok answer ∧ answer.isSome = D.answers name args

inductive Piece
  | fixed (s : Text)
  | hole
  deriving DecidableEq

def assemble : List Piece → List Text → Text
  | .fixed s :: pieces, texts => s ++ assemble pieces texts
  | .hole :: pieces, s :: texts => s ++ assemble pieces texts
  | _, _ => []

/-- The output is put together from the pieces and as many texts as they have holes. -/
structure Assembles (pieces : List Piece) (texts : List Text) (out : Text) : Prop where
  count_hole : pieces.count .hole = texts.length
  eq_assemble : out = assemble pieces texts

theorem assembles_fixed (s : Text) : Assembles [.fixed s] [] s :=
  ⟨rfl, (List.append_nil s).symm⟩

theorem assembles_hole (s : Text) : Assembles [.hole] [s] s :=
  ⟨rfl, (List.append_nil s).symm⟩

theorem assemble_append {pieces : List Piece} {texts : List Text}
    (h : pieces.count .hole = texts.length) (pieces' : List Piece) (texts' : List Text) :
    assemble (pieces ++ pieces') (texts ++ texts') =
      assemble pieces texts ++ assemble pieces' texts' := by
  induction pieces generalizing texts with
  | nil =>
    obtain rfl : texts = [] := List.length_eq_zero_iff.1 h.symm
    rfl
  | cons piece pieces ih =>
    cases piece with
    | fixed s =>
      rw [List.count_cons_of_ne (by simp)] at h
      rw [List.cons_append, assemble, assemble, ih h, List.append_assoc]
    | hole =>
      rw [List.count_cons_self] at h
      obtain ⟨s, texts, rfl⟩ := List.exists_cons_of_length_eq_add_one h.symm
      rw [List.length_cons, Nat.add_right_cancel_iff] at h
      rw [List.cons_append, List.cons_append, assemble, assemble, ih h, List.append_assoc]

theorem Assembles.append {pieces pieces' : List Piece} {texts texts' : List Text} {out out' : Text}
    (h : Assembles pieces texts out) (h' : Assembles pieces' texts' out') :
    Assembles (pieces ++ pieces') (texts ++ texts') (out ++ out') where
  count_hole := by rw [List.count_append, h.count_hole, h'.count_hole, List.length_append]
  eq_assemble := by rw [h.eq_assemble, h'.eq_assemble, assemble_append h.count_hole]

namespace Decisions

def oracle (D : Decisions) : Oracle Query Defect (List Piece) where
  text s := [.fixed s]
  broken d := d
  value name := .note (fun _ => .value name) <|
    .ok [if D.knows name then .hole else .fixed ('$' :: name)]
  color name := do
    let answer ← Noted.note (fun _ => .color name) (.ok (D.color name))
    return answer.getD []
  condition key := .note (fun _ => .condition key) (.ok (D.condition key))
  call name args := .note (fun _ => .call name args) <|
    .ok [if D.answers name args then .hole
      else .fixed ('@' :: name ++ '{' :: ['@'].intercalate args ++ ['}'])]

def skeleton (D : Decisions) (t : Text) : Noted Query Defect (List Piece) :=
  (Template.ofText t).traverse D.oracle

end Decisions

inductive Ends (r : α → β → Prop) : Except Defect α → Except Interrupt β → Prop
  | ok {a : α} {b : β} : r a b → Ends r (.ok a) (.ok b)
  | broken (d : Defect) : Ends r (.error d) (.error (.broken d))

/-- Two runs that put the same queries, one of them with decisions and the other one with answers
that follow them. The relation is between the results and the texts of the answers. -/
def Fleshes (q : Answers) (D : Decisions) (r : α → List Text → β → Prop)
    (x : Noted Query Defect α) (y : Noted Event Interrupt β) : Prop :=
  x.All (q.Follows D) → y.notes.map Event.query = x.notes ∧
    Ends (fun a b => r a (y.notes.filterMap Event.text?) b) x.outcome y.outcome

def Same (a : α) (texts : List Text) (b : α) : Prop := texts = [] ∧ a = b

section Fleshes

variable {q : Answers} {D : Decisions} {r : α → List Text → β → Prop}

theorem fleshes_pure {a : α} {b : β} (h : r a [] b) : Fleshes q D r (pure a) (pure b) :=
  fun _ => ⟨rfl, .ok h⟩

theorem Fleshes.bind {r' : α' → List Text → β' → Prop} {x : Noted Query Defect α}
    {y : Noted Event Interrupt β} {f : α → Noted Query Defect α'} {g : β → Noted Event Interrupt β'}
    (hx : Fleshes q D r x y)
    (hf : ∀ a texts b, r a texts b →
      Fleshes q D (fun a' texts' b' => r' a' (texts ++ texts') b') (f a) (g b)) :
    Fleshes q D r' (x >>= f) (y >>= g) := by
  obtain ⟨outcome, notes⟩ := x
  obtain ⟨outcome', notes'⟩ := y
  intro h
  cases outcome with
  | error d =>
    obtain ⟨hqueries, hends⟩ := hx h
    cases hends
    exact ⟨hqueries, .broken d⟩
  | ok a =>
    obtain ⟨hnotes, hfnotes⟩ := List.forall_mem_append.1 h
    obtain ⟨hqueries, hends⟩ := hx hnotes
    cases hends with
    | @ok _ b hab =>
      obtain ⟨hfqueries, hfends⟩ := hf a _ b hab hfnotes
      simp only [← List.filterMap_append] at hfends
      refine ⟨?_, hfends⟩
      calc (notes' ++ (g b).notes).map Event.query
          = notes'.map Event.query ++ (g b).notes.map Event.query := List.map_append
        _ = notes ++ (f a).notes := congrArg₂ _ hqueries hfqueries

theorem Fleshes.append {x x' : Noted Query Defect (List Piece)} {y y' : Noted Event Interrupt Text}
    (h : Fleshes q D Assembles x y) (h' : Fleshes q D Assembles x' y') :
    Fleshes q D Assembles (x ++ x') (y ++ y') := by
  refine h.bind fun pieces texts out hout => h'.bind fun pieces' texts' out' hout' => ?_
  apply fleshes_pure
  rw [List.append_nil]
  exact hout.append hout'

theorem fleshes_literal (s : Text) :
    Fleshes q D Assembles (D.oracle.literal s) (q.oracle.literal s) :=
  fleshes_pure (assembles_fixed s)

theorem Fleshes.framed {x : Noted Query Defect (List Piece)} {y : Noted Event Interrupt Text}
    (h : Fleshes q D Assembles x y) (opening closing : Text) :
    Fleshes q D Assembles (D.oracle.framed opening closing x)
      (q.oracle.framed opening closing y) :=
  ((fleshes_literal opening).append h).append (fleshes_literal closing)

theorem fleshes_answered {query : Query} {event : Option Text → Event} {known : Bool}
    {unknown : Text} {answer : Except Interrupt (Option Text)}
    (hquery : ∀ a, (event a).query = query) (htext : ∀ a, (event a).text? = a)
    (hfollows : q.Follows D query → ∃ a, answer = .ok a ∧ a.isSome = known) :
    Fleshes q D Assembles
      (.note (fun _ => query) (.ok [if known then .hole else .fixed unknown]))
      (Answers.answered event unknown answer) := by
  intro h
  obtain ⟨a, rfl, rfl⟩ := hfollows (List.forall_mem_singleton.1 h)
  refine ⟨congrArg ([·]) (hquery a), .ok ?_⟩
  change Assembles _ ([event a].filterMap Event.text?) _
  rw [List.filterMap_cons, htext]
  cases a with
  | none => exact assembles_fixed unknown
  | some s => exact assembles_hole s

theorem fleshes_note {query : Query} {event : α → Event} {a : α} {answer : Except Interrupt α}
    (hquery : (event a).query = query) (htext : (event a).text? = none)
    (hfollows : q.Follows D query → answer = .ok a) :
    Fleshes q D Same (.note (fun _ => query) (.ok a)) (.note event answer) := by
  intro h
  obtain rfl := hfollows (List.forall_mem_singleton.1 h)
  refine ⟨congrArg ([·]) hquery, .ok ⟨?_, rfl⟩⟩
  change [event a].filterMap Event.text? = []
  rw [List.filterMap_cons, htext]
  rfl

theorem fleshes_value (name : Text) :
    Fleshes q D Assembles (D.oracle.value name) (q.oracle.value name) :=
  fleshes_answered (fun _ => rfl) (fun _ => rfl) fun ⟨a, ha, hknown⟩ =>
    ⟨a, mapError_eq_ok_iff.2 ha, hknown⟩

theorem fleshes_call (name : Text) (args : List Text) :
    Fleshes q D Assembles (D.oracle.call name args) (q.oracle.call name args) :=
  fleshes_answered (fun _ => rfl) (fun _ => rfl) fun ⟨a, ha, hknown⟩ =>
    ⟨a, mapError_eq_ok_iff.2 ha, hknown⟩

theorem fleshes_condition (key : Text) :
    Fleshes q D Same (D.oracle.condition key) (q.oracle.condition key) :=
  fleshes_note rfl rfl fun h => mapError_eq_ok_iff.2 h

theorem fleshes_color (name : Text) :
    Fleshes q D Same (D.oracle.color name) (q.oracle.color name) := by
  have hanswer : Fleshes q D Same
      (.note (fun _ => Query.color name) (.ok (D.color name)))
      (.note (Event.color name) (Template.ask (q.color name))) :=
    fleshes_note rfl rfl fun h => mapError_eq_ok_iff.2 h
  refine hanswer.bind ?_
  rintro answer _ _ ⟨rfl, rfl⟩
  exact fleshes_pure ⟨rfl, rfl⟩

theorem fleshes_spanColor (color : Text) (subject : Option Text) :
    Fleshes q D Same (D.oracle.spanColor color subject) (q.oracle.spanColor color subject) := by
  unfold Oracle.spanColor
  split
  · cases subject with
    | none => exact fleshes_pure ⟨rfl, rfl⟩
    | some name => exact fleshes_color name
  · exact fleshes_pure ⟨rfl, rfl⟩

/-- Answers that follow the decisions flesh out the skeleton of every tree. -/
theorem fleshes_traverse (q : Answers) (D : Decisions) (t : Template) :
    Fleshes q D Assembles (t.traverse D.oracle) (t.traverse q.oracle) := by
  induction t with
  | done => exact fleshes_literal []
  | broken d => exact fun _ => ⟨rfl, .broken d⟩
  | literal c rest ih => exact (fleshes_literal [c]).append ih
  | value name rest ih => exact (fleshes_value name).append ih
  | span color subject body rest ihb ihr =>
    refine (fleshes_spanColor color subject).bind ?_
    rintro color' _ _ ⟨rfl, rfl⟩
    exact (ihb.framed _ _).append ihr
  | condition key body rest ihb ihr =>
    refine (fleshes_condition key).bind ?_
    rintro answer _ _ ⟨rfl, rfl⟩
    match answer with
    | some true => exact ihb.append ihr
    | some false => exact ihr
    | none => exact (ihb.framed _ _).append ihr
  | call name args flaw rest ih => exact (fleshes_call name args).append ih

end Fleshes

/-- Rendering puts the queries of the skeleton and puts the texts that it gets into the holes, one
after the other and as they are. So all resolvers that follow the same decisions put the same
queries, and their outputs differ in the holes only. -/
theorem render_fills_skeleton (t : Text) (D : Decisions) (r : Resolver C) (depth : Nat) (scope : C)
    (h : ∀ k ∈ (D.skeleton t).notes, (r.answers (r.render depth) scope).Follows D k) :
    let events := (r.run depth t scope).notes
    let texts := events.filterMap Event.text?
    (∀ e ∈ events, (r.answers (r.render depth) scope).Gives e) ∧
      events.map Event.query = (D.skeleton t).notes ∧
      match (D.skeleton t).outcome with
      | .ok pieces => pieces.count .hole = texts.length ∧
          r.render (depth + 1) t scope = .ok (assemble pieces texts)
      | .error d => r.render (depth + 1) t scope = .error (.malformed (d.within t)) := by
  intro events texts
  have hends : events.map Event.query = (D.skeleton t).notes ∧
      Ends (fun pieces out => Assembles pieces texts out) (D.skeleton t).outcome
        (r.run depth t scope).outcome := fleshes_traverse _ D _ h
  refine ⟨r.all_run depth t scope, hends.1, ?_⟩
  rw [r.render_eq_run]
  generalize (D.skeleton t).outcome = planned, (r.run depth t scope).outcome = outcome at hends ⊢
  cases hends.2 with
  | ok hassembles => exact ⟨hassembles.count_hole, by rw [hassembles.eq_assemble]; rfl⟩
  | broken d => rfl

def echo (s : Text) : Resolver Unit where
  value name _ := .ok (if name = "a" then some s else none)
  color _ _ := .ok (some "Red")
  condition _ _ := .ok (some true)
  call _ _ _ _ := .ok (some s)

def echoDecisions : Decisions where
  knows name := name = "a"
  color _ := some "Red"
  condition _ := some true
  answers _ _ := true

theorem follows_echo (s : Text) (depth : Nat) (k : Query) :
    ((echo s).answers ((echo s).render depth) ()).Follows echoDecisions k := by
  cases k with
  | value name =>
    refine ⟨_, rfl, ?_⟩
    change (if name = "a" then some s else none).isSome = decide (name = "a")
    split
    · next h => rw [decide_eq_true h, Option.isSome_some]
    · next h => rw [decide_eq_false h, Option.isSome_none]
  | color | condition => rfl
  | call => exact ⟨_, rfl, rfl⟩

theorem render_fills_skeleton_echo :
    ∃ pieces,
      (echoDecisions.skeleton "?k\x7b[auto:$a b]\x7d@f\x7b[x@y]@$a\x7d$u").outcome = .ok pieces ∧
      pieces.count .hole = 2 ∧
      (echo "]$u?k\x7b").render 1 "?k\x7b[auto:$a b]\x7d@f\x7b[x@y]@$a\x7d$u" () =
        .ok (assemble pieces ["]$u?k\x7b", "]$u?k\x7b"]) ∧
      (echo "").render 1 "?k\x7b[auto:$a b]\x7d@f\x7b[x@y]@$a\x7d$u" () =
        .ok (assemble pieces ["", ""]) := by
  have hskeleton : (echoDecisions.skeleton "?k\x7b[auto:$a b]\x7d@f\x7b[x@y]@$a\x7d$u").outcome =
      .ok [.fixed "[Red:", .hole, .fixed " ", .fixed "b", .fixed "", .fixed "]", .fixed "", .hole,
        .fixed "$u", .fixed ""] := by cbv
  have hrender (s : Text) := (render_fills_skeleton "?k\x7b[auto:$a b]\x7d@f\x7b[x@y]@$a\x7d$u"
    echoDecisions (echo s) 0 () fun k _ => follows_echo s 0 k).2.2
  simp only [hskeleton] at hrender
  refine ⟨_, hskeleton, by cbv, (hrender _).2.trans ?_, (hrender _).2.trans ?_⟩
  · cbv
  · cbv

end Listing
