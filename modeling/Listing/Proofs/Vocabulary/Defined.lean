import Mathlib
import Listing.Proofs.Text.Bytes
import Listing.Render.Vocabulary

namespace Listing

variable {C : Type}

inductive Kind
  | value
  | color
  | condition
  | function
  deriving DecidableEq

def Kind.Meaning (C : Type) : Kind → Type
  | value => C → Except ResolveError Text
  | color => C → Except ResolveError (Option Text)
  | condition => C → Except ResolveError Bool
  | function => Callee C

inductive Definition (C : Type)
  | value (name : Text) (f : C → Except ResolveError Text)
  | color (name : Text) (f : C → Except ResolveError (Option Text))
  | colors (names : List Text) (f : C → Except ResolveError (Option Text))
  | condition (key : Text) (f : C → Except ResolveError Bool)
  | function (name : Text) (f : Callee C)

namespace Definition

def kind : Definition C → Kind
  | value _ _ => .value
  | color _ _ => .color
  | colors _ _ => .color
  | condition _ _ => .condition
  | function _ _ => .function

def names : Definition C → List Text
  | value name _ => [name]
  | color name _ => [name]
  | colors names _ => names
  | condition key _ => [key]
  | function name _ => [name]

def meaning? (name : Text) : (k : Kind) → Definition C → Option (k.Meaning C)
  | .value, value name' f => if name = name' then some f else none
  | .color, color name' f => if name = name' then some f else none
  | .color, colors names f => if names.contains name then some f else none
  | .condition, condition key f => if name = key then some f else none
  | .function, function name' f => if name = name' then some f else none
  | _, _ => none

/-- The meaning that a name gets last, if it gets one. -/
def lastMeaning (ds : List (Definition C)) (k : Kind) (name : Text) : Option (k.Meaning C) :=
  (ds.filterMap (meaning? name k)).getLast?

/-- No name gets a meaning from both, for the same kind of query. -/
def Apart (d e : Definition C) : Prop :=
  d.kind ≠ e.kind ∨ ∀ name ∈ d.names, name ∉ e.names

/-- The same definitions in another order. Only neighbours that are apart change their places. -/
inductive Reordered : List (Definition C) → List (Definition C) → Prop
  | refl (ds : List (Definition C)) : Reordered ds ds
  | swap {d e : Definition C} (before after : List (Definition C)) : d.Apart e →
      Reordered (before ++ d :: e :: after) (before ++ e :: d :: after)
  | trans {ds es fs : List (Definition C)} : Reordered ds es → Reordered es fs → Reordered ds fs

theorem lastMeaning_append (ds es : List (Definition C)) (k : Kind) (name : Text) :
    lastMeaning (ds ++ es) k name = (lastMeaning es k name).or (lastMeaning ds k name) := by
  rw [lastMeaning, List.filterMap_append, List.getLast?_append]
  rfl

theorem lastMeaning_cons (d : Definition C) (ds : List (Definition C)) (k : Kind) (name : Text) :
    lastMeaning (d :: ds) k name = (lastMeaning ds k name).or (d.meaning? name k) := by
  have hsingle : lastMeaning [d] k name = d.meaning? name k := by
    rw [lastMeaning, List.filterMap_cons]
    cases d.meaning? name k <;> rfl
  rw [← hsingle, ← lastMeaning_append, List.singleton_append]

theorem meaning?_eq_none {d : Definition C} {k : Kind} {name : Text}
    (h : k ≠ d.kind ∨ name ∉ d.names) : d.meaning? name k = none := by
  cases d <;> cases k <;> simp_all [meaning?, kind, names]

theorem Apart.lastMeaning_swap {d e : Definition C} (h : d.Apart e) (ds : List (Definition C))
    (k : Kind) (name : Text) :
    lastMeaning (d :: e :: ds) k name = lastMeaning (e :: d :: ds) k name := by
  have hnone : d.meaning? name k = none ∨ e.meaning? name k = none := by
    rcases h with hkind | hnames
    · by_cases hk : k = d.kind
      · exact .inr (meaning?_eq_none (.inl (hk ▸ hkind)))
      · exact .inl (meaning?_eq_none (.inl hk))
    · by_cases hname : name ∈ d.names
      · exact .inr (meaning?_eq_none (.inr (hnames name hname)))
      · exact .inl (meaning?_eq_none (.inr hname))
  simp only [lastMeaning_cons]
  rcases hnone with hd | he
  · rw [hd, Option.or_none, Option.or_none]
  · rw [he, Option.or_none, Option.or_none]

theorem Reordered.lastMeaning_eq {ds es : List (Definition C)} (h : Reordered ds es) (k : Kind)
    (name : Text) : lastMeaning ds k name = lastMeaning es k name := by
  induction h with
  | refl => rfl
  | swap before after hapart => rw [lastMeaning_append, lastMeaning_append, hapart.lastMeaning_swap]
  | trans _ _ ih ih' => exact ih.trans ih'

end Definition

open Definition

def Resolver.ofMeanings (look : (k : Kind) → Text → Option (k.Meaning C)) : Resolver C where
  value name scope :=
    match look .value name with
    | some f => some <$> f scope
    | none => .ok none
  color name scope :=
    match look .color name with
    | some f => f scope
    | none => .ok none
  condition key scope :=
    match look .condition key with
    | some f => some <$> f scope
    | none => .ok none
  call name args scope render :=
    match look .function name with
    | some f => f args scope render
    | none => .ok none

namespace Vocabulary

def apply (v : Vocabulary C) : Definition C → Vocabulary C
  | .value name f => v.defineValue name f
  | .color name f => v.defineColor name f
  | .colors names f => v.defineColors names f
  | .condition key f => v.defineCondition key f
  | .function name f => v.defineFunction name f

def ofDefinitions (ds : List (Definition C)) : Vocabulary C := ds.foldl apply empty

def meaning? (v : Vocabulary C) : (k : Kind) → Text → Option (k.Meaning C)
  | .value, name => v.values.get? name
  | .color, name => v.colors.get? name
  | .condition, key => v.conditions.get? key
  | .function, name => v.functions.get? name

def names (v : Vocabulary C) : Kind → List Text
  | .value => v.valueNames
  | .color => v.colors.keys
  | .condition => v.conditions.keys
  | .function => v.functions.keys

def AnswersAlike (k : Kind) (v w : Vocabulary C) : Prop :=
  match k with
  | .value => (∀ name, v.knowsValue name = w.knowsValue name) ∧
      ∀ name scope, v.resolver.value name scope = w.resolver.value name scope
  | .color => ∀ name scope, v.resolver.color name scope = w.resolver.color name scope
  | .condition => (∀ key, v.knowsCondition key = w.knowsCondition key) ∧
      ∀ key scope, v.resolver.condition key scope = w.resolver.condition key scope
  | .function => (∀ name, v.knowsFunction name = w.knowsFunction name) ∧
      ∀ name args scope render,
        v.resolver.call name args scope render = w.resolver.call name args scope render

/-- Two vocabularies that cannot be told apart by their answers, by what they render or by what they
show of themselves. -/
structure Alike (v w : Vocabulary C) : Prop where
  answers : ∀ k, AnswersAlike k v w
  render : ∀ depth template scope, v.render depth template scope = w.render depth template scope
  list : ∀ depth item scopes separators,
    (v.render depth).list item scopes separators = (w.render depth).list item scopes separators
  valueNames : v.valueNames = w.valueNames
  describe : v.describe = w.describe

theorem defineColors_eq (v : Vocabulary C) (names : List Text)
    (f : C → Except ResolveError (Option Text)) :
    v.defineColors names f =
      { v with colors := names.foldl (fun d name => d.insert name f) v.colors } := by
  induction names generalizing v with
  | nil => rfl
  | cons name names ih =>
    rw [defineColors, List.foldl_cons]
    exact ih (v.defineColor name f)

theorem get?_insert_or {α : Type} (d : Dict α) (k x : Text) (a : α) :
    (d.insert k a).get? x = (if x = k then some a else none).or (d.get? x) := by
  rw [Dict.get?_insert]
  split <;> rfl

theorem get?_foldl_insert {α : Type} (d : Dict α) (ks : List Text) (x : Text) (a : α) :
    (ks.foldl (fun d k => d.insert k a) d).get? x =
      (if ks.contains x then some a else none).or (d.get? x) := by
  induction ks generalizing d with
  | nil => rfl
  | cons k ks ih =>
    rw [List.foldl_cons, ih, Dict.get?_insert, List.contains_cons]
    by_cases hk : x = k
    · subst hk
      rw [if_pos rfl, beq_self_eq_true, Bool.true_or, if_pos rfl]
      split <;> rfl
    · rw [if_neg hk, beq_false_of_ne hk, Bool.false_or]

theorem meaning?_apply (v : Vocabulary C) (d : Definition C) (k : Kind) (name : Text) :
    (v.apply d).meaning? k name = (d.meaning? name k).or (v.meaning? k name) := by
  cases d with
  | value name' f =>
    cases k with
    | value => exact get?_insert_or v.values name' name f
    | color | condition | function => rfl
  | color name' f =>
    cases k with
    | color => exact get?_insert_or v.colors name' name f
    | value | condition | function => rfl
  | colors names f =>
    rw [apply, defineColors_eq]
    cases k with
    | color => exact get?_foldl_insert v.colors names name f
    | value | condition | function => rfl
  | condition key f =>
    cases k with
    | condition => exact get?_insert_or v.conditions key name f
    | value | color | function => rfl
  | function name' f =>
    cases k with
    | function => exact get?_insert_or v.functions name' name f
    | value | color | condition => rfl

theorem resolver_eq (v : Vocabulary C) : v.resolver = .ofMeanings v.meaning? := rfl

theorem answersAlike_of_meaning? {k : Kind} {v w : Vocabulary C}
    (h : ∀ name, v.meaning? k name = w.meaning? k name) : AnswersAlike k v w := by
  simp only [AnswersAlike, resolver_eq, Resolver.ofMeanings]
  cases k with
  | value => exact ⟨fun name => congrArg Option.isSome (h name), fun name scope => by rw [h]⟩
  | color => exact fun name scope => by rw [h]
  | condition => exact ⟨fun key => congrArg Option.isSome (h key), fun key scope => by rw [h]⟩
  | function =>
    exact ⟨fun name => congrArg Option.isSome (h name), fun name args scope render => by rw [h]⟩

theorem answersAlike_apply (v : Vocabulary C) {d : Definition C} {k : Kind} (h : k ≠ d.kind) :
    AnswersAlike k (v.apply d) v := by
  apply answersAlike_of_meaning?
  intro name
  rw [meaning?_apply, meaning?_eq_none (.inl h), Option.none_or]

theorem meaning?_foldl (v : Vocabulary C) (ds : List (Definition C)) (k : Kind) (name : Text) :
    (ds.foldl apply v).meaning? k name = (lastMeaning ds k name).or (v.meaning? k name) := by
  induction ds generalizing v with
  | nil => rfl
  | cons d ds ih => rw [List.foldl_cons, ih, meaning?_apply, lastMeaning_cons, Option.or_assoc]

theorem meaning?_ofDefinitions (ds : List (Definition C)) :
    (ofDefinitions ds).meaning? = lastMeaning ds := by
  funext k name
  have hempty : (empty : Vocabulary C).meaning? k name = none := by cases k <;> rfl
  rw [ofDefinitions, meaning?_foldl, hempty, Option.or_none]

theorem ext_meaning? {v w : Vocabulary C} (h : v.meaning? = w.meaning?) : v = w := by
  have hvalues : v.values = w.values := Dict.ext fun name => congrFun (congrFun h .value) name
  have hcolors : v.colors = w.colors := Dict.ext fun name => congrFun (congrFun h .color) name
  have hconditions : v.conditions = w.conditions :=
    Dict.ext fun name => congrFun (congrFun h .condition) name
  have hfunctions : v.functions = w.functions :=
    Dict.ext fun name => congrFun (congrFun h .function) name
  obtain ⟨values, colors, conditions, functions⟩ := v
  rw [mk.injEq]
  exact ⟨hvalues, hcolors, hconditions, hfunctions⟩

theorem alike_of_meaning? {v w : Vocabulary C} (h : v.meaning? = w.meaning?) : Alike v w where
  answers k := answersAlike_of_meaning? fun name => congrFun (congrFun h k) name
  render depth template scope := by rw [render, render, resolver_eq, h, ← resolver_eq]
  list depth item scopes separators := by
    rw [render, render, resolver_eq, h, ← resolver_eq]
  valueNames := by rw [ext_meaning? h]
  describe := by rw [ext_meaning? h]

theorem mem_names_iff (v : Vocabulary C) (k : Kind) (name : Text) :
    name ∈ v.names k ↔ (v.meaning? k name).isSome := by
  cases k <;> exact Dict.mem_keys_iff

theorem sorted_names (v : Vocabulary C) (k : Kind) :
    (v.names k).Pairwise fun a b => a.utf8 < b.utf8 := by
  cases k with
  | value => exact v.values.sorted_utf8_keys
  | color => exact v.colors.sorted_utf8_keys
  | condition => exact v.conditions.sorted_utf8_keys
  | function => exact v.functions.sorted_utf8_keys

/-- What a vocabulary is made of shows only in the last definition of each name. -/
theorem determined_by_last_definitions {ds es : List (Definition C)}
    (h : ∀ k name, lastMeaning ds k name = lastMeaning es k name) :
    Alike (ofDefinitions ds) (ofDefinitions es) ∧
    (ofDefinitions ds).resolver = .ofMeanings (lastMeaning ds) ∧
    (∀ k, ((ofDefinitions ds).names k).Pairwise (fun a b => a.utf8 < b.utf8) ∧
      ((ofDefinitions ds).names k).Nodup ∧
      ∀ name, name ∈ (ofDefinitions ds).names k ↔ (lastMeaning ds k name).isSome) ∧
    (∀ (v : Vocabulary C) d k, k ≠ d.kind → AnswersAlike k (v.apply d) v) ∧
    ∀ fs, Reordered ds fs → Alike (ofDefinitions ds) (ofDefinitions fs) := by
  have hmeaning := meaning?_ofDefinitions ds
  refine ⟨?_, ?_, ?_, fun v d k hk => answersAlike_apply v hk, ?_⟩
  · apply alike_of_meaning?
    rw [hmeaning, meaning?_ofDefinitions es]
    funext k name
    exact h k name
  · rw [resolver_eq, hmeaning]
  · intro k
    have hsorted := (ofDefinitions ds).sorted_names k
    refine ⟨hsorted, hsorted.imp fun hab heq => ?_, fun name => ?_⟩
    · rw [heq] at hab
      exact List.lt_irrefl _ hab
    · rw [mem_names_iff, hmeaning]
  · intro fs hfs
    apply alike_of_meaning?
    rw [hmeaning, meaning?_ofDefinitions fs]
    funext k name
    exact hfs.lastMeaning_eq k name

def whole : Text → Except ResolveError Text := .ok

def shade : Text → Except ResolveError (Option Text) := fun scope => .ok (some scope)

def firstRendered : Callee Text := fun args scope render =>
  match args with
  | [] => .ok none
  | a :: _ => some <$> render a scope

def told : List (Definition Text) :=
  [.value "a" fun _ => .ok "old", .colors ["a", "é"] shade, .function "f" firstRendered,
    .value "é" whole, .value "a" whole]

def retold : List (Definition Text) :=
  [.function "f" fun _ _ _ => .ok none, .value "a" whole, .color "é" fun _ => .ok none,
    .value "é" whole, .colors ["é", "a"] shade, .function "f" firstRendered]

theorem determined_by_last_definitions_retold :
    (∀ k name, lastMeaning told k name = lastMeaning retold k name) ∧
    Alike (ofDefinitions told) (ofDefinitions retold) ∧
    (ofDefinitions told).valueNames = [['a'], ['é']] ∧
    (ofDefinitions retold).render 2 "[auto:@f\x7b$é @x\x7d]$a" "s" = .ok "[s:s ]s" := by
  have hlast : ∀ k name, lastMeaning told k name = lastMeaning retold k name := by
    intro k name
    cases k with
    | value =>
      by_cases ha : name = "a"
      · subst ha
        rfl
      · by_cases he : name = "é"
        · subst he
          rfl
        · simp only [lastMeaning, told, retold, List.filterMap_cons, Definition.meaning?, ha, he,
            ↓reduceIte]
    | color =>
      by_cases ha : name = "a"
      · subst ha
        rfl
      · by_cases he : name = "é"
        · subst he
          rfl
        · simp only [lastMeaning, told, retold, List.filterMap_cons, Definition.meaning?, he,
            List.contains_cons, List.contains_nil, beq_false_of_ne ha, beq_false_of_ne he,
            Bool.or_self, Bool.false_eq_true, ↓reduceIte]
    | condition => rfl
    | function =>
      by_cases hf : name = "f"
      · subst hf
        rfl
      · simp only [lastMeaning, told, retold, List.filterMap_cons, Definition.meaning?, hf,
          ↓reduceIte]
  exact ⟨hlast, (determined_by_last_definitions hlast).1, by cbv, by cbv⟩

end Vocabulary

end Listing
