import Listing.Text.Order

namespace Listing

variable {α : Type}

/-- Entries stand in the order of their keys, so that dictionaries with the same entries are equal. -/
structure Dict (α : Type) where
  entries : List (Text × α)
  sorted : entries.Pairwise fun a b => Text.precedes a.1 b.1 = true

namespace Dict

def empty : Dict α := ⟨[], .nil⟩

instance : Inhabited (Dict α) := ⟨empty⟩

def put (k : Text) (v : α) : List (Text × α) → List (Text × α)
  | [] => [(k, v)]
  | e :: es =>
    if Text.precedes k e.1 then (k, v) :: e :: es
    else if k = e.1 then (k, v) :: es
    else e :: put k v es

theorem mem_put {k : Text} {v : α} {es : List (Text × α)} {x : Text × α} (h : x ∈ put k v es) :
    x = (k, v) ∨ x ∈ es := by
  induction es with
  | nil => simpa [put] using h
  | cons e es ih => grind [put]

theorem sorted_put {k : Text} {v : α} {es : List (Text × α)}
    (h : es.Pairwise fun a b => Text.precedes a.1 b.1 = true) :
    (put k v es).Pairwise fun a b => Text.precedes a.1 b.1 = true := by
  induction es with
  | nil => simp [put]
  | cons e es ih =>
    obtain ⟨he, hes⟩ := List.pairwise_cons.1 h
    rw [put]
    split
    · next hk =>
      refine List.pairwise_cons.2 ⟨fun x hx => ?_, h⟩
      rcases List.mem_cons.1 hx with rfl | hx
      · exact hk
      · exact Text.precedes_trans hk (he x hx)
    · split
      · next hk =>
        subst hk
        exact List.pairwise_cons.2 ⟨he, hes⟩
      · next hk hne =>
        refine List.pairwise_cons.2 ⟨fun x hx => ?_, ih hes⟩
        rcases mem_put hx with rfl | hx
        · rcases Text.precedes_total e.1 k with h | h | h
          · exact h
          · exact absurd h.symm hne
          · exact absurd h hk
        · exact he x hx

def insert (d : Dict α) (k : Text) (v : α) : Dict α := ⟨put k v d.entries, sorted_put d.sorted⟩

def get? (d : Dict α) (k : Text) : Option α := d.entries.lookup k

def contains (d : Dict α) (k : Text) : Bool := (d.get? k).isSome

def keys (d : Dict α) : List Text := d.entries.map Prod.fst

def size (d : Dict α) : Nat := d.entries.length

/-- Lays `e` over `d`: where both map a key, `e` wins. -/
def union (d e : Dict α) : Dict α := e.entries.foldl (fun d x => d.insert x.1 x.2) d

def ofList (es : List (Text × α)) : Dict α := es.foldl (fun d x => d.insert x.1 x.2) empty

theorem lookup_eq_some_iff {es : List (Text × α)}
    (h : es.Pairwise fun a b => Text.precedes a.1 b.1 = true) {k : Text} {v : α} :
    es.lookup k = some v ↔ (k, v) ∈ es := by
  induction es with
  | nil => simp
  | cons e es ih =>
    obtain ⟨he, hes⟩ := List.pairwise_cons.1 h
    obtain ⟨k', v'⟩ := e
    rw [List.lookup_cons, List.mem_cons, Prod.mk.injEq]
    by_cases hk : k = k'
    · subst hk
      have hnot : (k, v) ∉ es := fun hm => absurd rfl (Text.ne_of_precedes (he (k, v) hm))
      simp [hnot, eq_comm]
    · have hb : (k == k') = false := by simpa using hk
      simp [hb, hk, ih hes]

theorem get?_eq_some_iff {d : Dict α} {k : Text} {v : α} :
    d.get? k = some v ↔ (k, v) ∈ d.entries :=
  lookup_eq_some_iff d.sorted

theorem lookup_put (k : Text) (v : α) (es : List (Text × α)) (x : Text)
    (h : es.Pairwise fun a b => Text.precedes a.1 b.1 = true) :
    (put k v es).lookup x = if x = k then some v else es.lookup x := by
  induction es with
  | nil => grind [put]
  | cons e es ih =>
    have := ih (List.pairwise_cons.1 h).2
    grind [put]

theorem get?_insert (d : Dict α) (k x : Text) (v : α) :
    (d.insert k v).get? x = if x = k then some v else d.get? x :=
  lookup_put k v d.entries x d.sorted

@[simp] theorem get?_insert_self (d : Dict α) (k : Text) (v : α) :
    (d.insert k v).get? k = some v := by
  simp [get?_insert]

theorem get?_insert_of_ne {k x : Text} (h : x ≠ k) (d : Dict α) (v : α) :
    (d.insert k v).get? x = d.get? x := by
  simp [get?_insert, h]

theorem eq_of_mem_iff {es fs : List (Text × α)}
    (he : es.Pairwise fun a b => Text.precedes a.1 b.1 = true)
    (hf : fs.Pairwise fun a b => Text.precedes a.1 b.1 = true)
    (h : ∀ x, x ∈ es ↔ x ∈ fs) : es = fs := by
  induction es generalizing fs with
  | nil => exact (List.eq_nil_iff_forall_not_mem.2 fun x hx => by simpa using (h x).2 hx).symm
  | cons e es ih =>
    cases fs with
    | nil => simpa using h e
    | cons f fs =>
      obtain ⟨he1, he2⟩ := List.pairwise_cons.1 he
      obtain ⟨hf1, hf2⟩ := List.pairwise_cons.1 hf
      have hef : e = f := by
        rcases List.mem_cons.1 ((h e).1 List.mem_cons_self) with k | k
        · exact k
        · rcases List.mem_cons.1 ((h f).2 List.mem_cons_self) with m | m
          · exact m.symm
          · have := Text.precedes_asymm (he1 f m)
            simp [hf1 e k] at this
      subst hef
      refine congrArg (e :: ·) (ih he2 hf2 fun x => ⟨fun hx => ?_, fun hx => ?_⟩)
      · rcases List.mem_cons.1 ((h x).1 (List.mem_cons_of_mem _ hx)) with rfl | k
        · exact absurd rfl (Text.ne_of_precedes (he1 x hx))
        · exact k
      · rcases List.mem_cons.1 ((h x).2 (List.mem_cons_of_mem _ hx)) with rfl | k
        · exact absurd rfl (Text.ne_of_precedes (hf1 x hx))
        · exact k

theorem ext {d e : Dict α} (h : ∀ k, d.get? k = e.get? k) : d = e := by
  obtain ⟨es, hes⟩ := d
  obtain ⟨fs, hfs⟩ := e
  have : es = fs := eq_of_mem_iff hes hfs fun x => by
    rw [← lookup_eq_some_iff hes, ← lookup_eq_some_iff hfs]
    exact iff_of_eq (congrArg (· = some x.2) (h x.1))
  subst this
  rfl

theorem mem_keys_iff {d : Dict α} {k : Text} : k ∈ d.keys ↔ (d.get? k).isSome := by
  rw [Option.isSome_iff_exists, keys, List.mem_map]
  constructor
  · rintro ⟨e, he, rfl⟩
    exact ⟨e.2, get?_eq_some_iff.2 he⟩
  · rintro ⟨v, hv⟩
    exact ⟨(k, v), get?_eq_some_iff.1 hv, rfl⟩

theorem sorted_keys (d : Dict α) : d.keys.Pairwise fun a b => Text.precedes a b = true :=
  List.pairwise_map.2 d.sorted

end Dict

instance [DecidableEq α] : DecidableEq (Dict α) := fun d e =>
  if h : d.entries = e.entries then
    isTrue (by cases d; cases e; subst h; rfl)
  else isFalse fun k => h (k ▸ rfl)

end Listing
