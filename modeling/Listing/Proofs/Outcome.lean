import Mathlib.Data.List.Forall2

namespace Listing

variable {ε ε' ε'' α β γ : Type}

theorem bind_eq_ok {x : Except ε α} {f : α → Except ε β} {b : β} (h : x >>= f = .ok b) :
    ∃ a, x = .ok a ∧ f a = .ok b := by
  cases x with
  | error e => cases h
  | ok a => exact ⟨a, rfl, h⟩

theorem bind_eq_error {x : Except ε α} {f : α → Except ε β} {e : ε} (h : x >>= f = .error e) :
    x = .error e ∨ ∃ a, x = .ok a ∧ f a = .error e := by
  cases x with
  | error e' =>
    cases h
    exact .inl rfl
  | ok a => exact .inr ⟨a, rfl, h⟩

theorem map_eq_ok {f : α → β} {x : Except ε α} {b : β} (h : f <$> x = .ok b) :
    ∃ a, x = .ok a ∧ f a = b := by
  cases x with
  | error e => cases h
  | ok a =>
    cases h
    exact ⟨a, rfl, rfl⟩

theorem map_eq_error {f : α → β} {x : Except ε α} {e : ε} (h : f <$> x = .error e) :
    x = .error e := by
  cases x with
  | error e' =>
    cases h
    rfl
  | ok a => cases h

theorem map_eq_error_iff {f : α → β} {x : Except ε α} {e : ε} :
    f <$> x = .error e ↔ x = .error e :=
  ⟨map_eq_error, fun h => by rw [h]; rfl⟩

theorem mapError_eq_ok {x : Except ε α} {g : ε → ε'} {a : α} (h : x.mapError g = .ok a) :
    x = .ok a := by
  cases x with
  | error e => cases h
  | ok a' =>
    cases h
    rfl

theorem mapError_eq_ok_iff {x : Except ε α} {g : ε → ε'} {a : α} :
    x.mapError g = .ok a ↔ x = .ok a :=
  ⟨mapError_eq_ok, fun h => by rw [h]; rfl⟩

theorem mapError_eq_error_iff {x : Except ε α} {g : ε → ε'} {e : ε'} :
    x.mapError g = .error e ↔ ∃ d, x = .error d ∧ e = g d := by
  cases x <;> simp [Except.mapError, eq_comm]

theorem check_bind_eq_ok_iff {x : Except ε Unit} {a b : α} :
    (x >>= fun _ => .ok a) = .ok b ↔ x = .ok () ∧ b = a := by
  cases x with
  | error e => exact ⟨nofun, fun h => nomatch h.1⟩
  | ok u => exact ⟨fun h => ⟨rfl, (Except.ok.inj h).symm⟩, fun h => congrArg Except.ok h.2.symm⟩

theorem check_bind_eq_error_iff {x : Except ε Unit} {a : α} {e : ε} :
    (x >>= fun _ => .ok a) = .error e ↔ x = .error e := by
  cases x with
  | error e' => exact ⟨fun h => congrArg Except.error (Except.error.inj h), fun h => h ▸ rfl⟩
  | ok u => exact ⟨nofun, nofun⟩

theorem forM_eq_ok_iff {f : α → Except ε PUnit} {xs : List α} :
    xs.forM f = .ok () ↔ ∀ x ∈ xs, f x = .ok () := by
  induction xs with
  | nil => exact ⟨nofun, fun _ => rfl⟩
  | cons x xs ih =>
    rw [List.forall_mem_cons, ← ih]
    constructor
    · intro h
      obtain ⟨_, hx, hxs⟩ := bind_eq_ok h
      exact ⟨hx, hxs⟩
    · rintro ⟨hx, hxs⟩
      rw [List.forM, hx]
      exact hxs

theorem mapError_bind (x : Except ε α) (f : α → Except ε β) (g : ε → ε') :
    (x >>= f).mapError g = x.mapError g >>= fun a => (f a).mapError g := by
  cases x <;> rfl

theorem mapError_mapError (x : Except ε α) (f : ε → ε') (g : ε' → ε'') :
    (x.mapError f).mapError g = x.mapError fun e => g (f e) := by
  cases x <;> rfl

theorem mapM_eq_ok_iff {f : α → Except ε β} {xs : List α} {bs : List β} :
    xs.mapM f = .ok bs ↔ List.Forall₂ (fun x b => f x = .ok b) xs bs := by
  induction xs generalizing bs with
  | nil => exact ⟨fun h => by cases h; exact .nil, fun h => by cases h; rfl⟩
  | cons x xs ih =>
    rw [List.mapM_cons]
    constructor
    · intro h
      obtain ⟨b, hb, hcons⟩ := bind_eq_ok h
      obtain ⟨bs, hbs, rfl⟩ := map_eq_ok hcons
      exact .cons hb (ih.1 hbs)
    · intro h
      cases h with
      | cons hb hbs =>
        rw [hb, ih.2 hbs]
        rfl

/-- Where some have no result, the error is that of the first of them. -/
theorem mapM_eq_error_iff {f : α → Except ε β} {xs : List α} {e : ε} :
    xs.mapM f = .error e ↔ ∃ before x after, xs = before ++ x :: after ∧
      (∀ y ∈ before, ∃ b, f y = .ok b) ∧ f x = .error e := by
  induction xs with
  | nil =>
    refine ⟨nofun, ?_⟩
    rintro ⟨before, x, after, h, -⟩
    simp at h
  | cons x xs ih =>
    rw [List.mapM_cons]
    constructor
    · intro h
      rcases bind_eq_error h with hx | ⟨b, hb, hbs⟩
      · exact ⟨[], x, xs, rfl, nofun, hx⟩
      · obtain ⟨before, y, after, rfl, hbefore, hy⟩ := ih.1 (map_eq_error hbs)
        exact ⟨x :: before, y, after, rfl, List.forall_mem_cons.2 ⟨⟨b, hb⟩, hbefore⟩, hy⟩
    · rintro ⟨before, y, after, heq, hbefore, hy⟩
      cases before with
      | nil =>
        cases heq
        rw [hy]
        rfl
      | cons _ before =>
        cases heq
        obtain ⟨⟨b, hb⟩, hbefore⟩ := List.forall_mem_cons.1 hbefore
        rw [hb, ih.2 ⟨before, y, after, rfl, hbefore, hy⟩]
        rfl

theorem exists_error_of_mapM {f : α → Except ε β} {xs : List α} {e : ε}
    (h : xs.mapM f = .error e) : ∃ x ∈ xs, f x = .error e := by
  obtain ⟨before, x, after, rfl, -, hx⟩ := mapM_eq_error_iff.1 h
  exact ⟨x, List.mem_append_right _ List.mem_cons_self, hx⟩

theorem exists_mapM_eq_error_iff {f : α → Except ε β} {xs : List α} :
    (∃ e, xs.mapM f = .error e) ↔ ∃ x ∈ xs, ∃ e, f x = .error e := by
  constructor
  · rintro ⟨e, he⟩
    obtain ⟨x, hx, he⟩ := exists_error_of_mapM he
    exact ⟨x, hx, e, he⟩
  · rintro ⟨x, hx, e, he⟩
    cases h : xs.mapM f with
    | error e' => exact ⟨e', rfl⟩
    | ok bs =>
      have hall : List.Forall₂ (fun x b => (∃ b, f x = .ok b) ∧ f x = .ok b) xs bs :=
        (mapM_eq_ok_iff.1 h).imp fun x b hb => ⟨⟨b, hb⟩, hb⟩
      obtain ⟨b, hb⟩ := ((List.forall₂_and_left xs bs).1 hall).1 x hx
      rw [he] at hb
      cases hb

theorem exists_mapM {f : α → Except ε β} {r : β → γ → Prop} {g : α → γ} {xs : List α}
    (h : ∀ x ∈ xs, ∃ b, f x = .ok b ∧ r b (g x)) :
    ∃ bs, xs.mapM f = .ok bs ∧ List.Forall₂ r bs (xs.map g) := by
  induction xs with
  | nil => exact ⟨[], rfl, .nil⟩
  | cons x xs ih =>
    obtain ⟨b, hb, hr⟩ := h x List.mem_cons_self
    obtain ⟨bs, hbs, hrs⟩ := ih fun y hy => h y (List.mem_cons_of_mem _ hy)
    refine ⟨b :: bs, ?_, .cons hr hrs⟩
    rw [List.mapM_cons, hb, hbs]
    rfl

theorem exists_mapM_ok {f : α → Except ε β} {xs : List α} (h : ∀ x ∈ xs, ∃ b, f x = .ok b) :
    ∃ bs, xs.mapM f = .ok bs := by
  obtain ⟨bs, hbs, -⟩ := exists_mapM (r := fun _ _ => True) (g := id) fun x hx =>
    (h x hx).imp fun _ hb => ⟨hb, trivial⟩
  exact ⟨bs, hbs⟩

theorem mapM_eq_ok {f : α → Except ε β} {g : α → β} {xs : List α} (h : ∀ x ∈ xs, f x = .ok (g x)) :
    xs.mapM f = .ok (xs.map g) := by
  rw [mapM_eq_ok_iff, List.forall₂_map_right_iff, List.forall₂_same]
  exact h

theorem mapM_eq_some_iff {f : α → Option β} {xs : List α} {bs : List β} :
    xs.mapM f = some bs ↔ List.Forall₂ (fun x b => f x = some b) xs bs := by
  induction xs generalizing bs with
  | nil => exact ⟨fun h => by cases h; exact .nil, fun h => by cases h; rfl⟩
  | cons x xs ih =>
    rw [List.mapM_cons]
    constructor
    · intro h
      obtain ⟨b, hb, hcons⟩ := Option.bind_eq_some_iff.1 h
      obtain ⟨bs, hbs, hpure⟩ := Option.bind_eq_some_iff.1 hcons
      cases hpure
      exact .cons hb (ih.1 hbs)
    · intro h
      cases h with
      | cons hb hbs =>
        rw [hb, ih.2 hbs]
        rfl

theorem exists_mapM_eq_some_iff {f : α → Option β} {r : α → β → Prop} {xs : List α} :
    (∃ bs, xs.mapM f = some bs ∧ List.Forall₂ r xs bs) ↔ ∀ x ∈ xs, ∃ b, f x = some b ∧ r x b := by
  induction xs with
  | nil => exact ⟨nofun, fun _ => ⟨[], rfl, .nil⟩⟩
  | cons x xs ih =>
    simp only [List.forall_mem_cons, ← ih, mapM_eq_some_iff]
    constructor
    · rintro ⟨_, _ | ⟨hb, hbs⟩, _ | ⟨hr, hrs⟩⟩
      exact ⟨⟨_, hb, hr⟩, _, hbs, hrs⟩
    · rintro ⟨⟨b, hb, hr⟩, bs, hbs, hrs⟩
      exact ⟨b :: bs, .cons hb hbs, .cons hr hrs⟩

end Listing
