import Mathlib.Data.List.Forall2
import Listing.Proofs.Outcome
import Listing.Record

namespace Listing

namespace Data

/-- A field that a record can have: the default for one that is missing, if it may be, and the
normal form of one that is given. -/
structure Field where
  name : Text
  default? : Option Data := none
  normal : Data → Data := id

namespace Field

/-- What a record says about a field, as the field of its normal form. -/
def filled (f : Field) (fields : List (Text × Data)) : List (Text × Data) :=
  match fields.filter fun g => g.1 == f.name with
  | [] => f.default?.toList.map fun d => (f.name, d)
  | given => given.map fun g => (f.name, f.normal g.2)

def value? (f : Field) : Option Data → Option Data
  | none => f.default?
  | some d => some (f.normal d)

end Field

def entries? (names : List Text) : Data → Option (List (Text × Data))
  | object fields => some fields
  | list items => if items.length ≤ names.length then some (names.zip items) else none
  | _ => none

/-- A record with the fields that it can have, and no others. -/
def completed (schema : List Field) (d : Data) : Data :=
  match d.entries? (schema.map Field.name) with
  | none => d
  | some fields => object (schema.flatMap fun f => f.filled fields)

variable {names : List Text} {fields : List (Text × Data)} {f : Field}

def field? (fields : List (Text × Data)) (name : Text) : Option (Option Data) :=
  match fields.filter fun f => f.1 == name with
  | [] => some none
  | [f] => some (some f.2)
  | _ => none

theorem mapM_field?_cons {name : Text} (h : name ∉ names) (d : Data) :
    names.mapM (field? ((name, d) :: fields)) = names.mapM (field? fields) := by
  induction names with
  | nil => rfl
  | cons n names ih =>
    obtain ⟨hne, hnames⟩ := List.ne_and_not_mem_of_not_mem_cons h
    have hfield : field? ((name, d) :: fields) n = field? fields n := by
      rw [field?, List.filter_cons_of_neg (by simpa using hne), field?]
    rw [List.mapM_cons, List.mapM_cons, hfield, ih hnames]

theorem mapM_field?_zip (hnames : names.Nodup) {items : List Data}
    (hlength : items.length ≤ names.length) :
    names.mapM (field? (names.zip items)) =
      some (items.map some ++ List.replicate (names.length - items.length) none) := by
  induction names generalizing items with
  | nil =>
    cases items with
    | nil => rfl
    | cons d items => cases hlength
  | cons n names ih =>
    obtain ⟨hn, hnames⟩ := List.nodup_cons.1 hnames
    rw [List.mapM_cons]
    cases items with
    | nil =>
      have hrest := @ih hnames [] (Nat.zero_le names.length)
      rw [List.zip_nil_right] at hrest ⊢
      rw [hrest]
      rfl
    | cons d items =>
      have hfield : field? ((n, d) :: names.zip items) n = some (some d) := by
        have hzip : (names.zip items).filter (fun g => g.1 == n) = [] := by
          rw [List.filter_eq_nil_iff]
          intro g hg heq
          exact hn (beq_iff_eq.1 heq ▸ (List.of_mem_zip hg).1)
        simp [field?, hzip]
      rw [List.zip_cons_cons, hfield, mapM_field?_cons hn,
        ih hnames (Nat.le_of_succ_le_succ hlength), List.length_cons, List.length_cons,
        Nat.add_sub_add_right]
      rfl

theorem fields?_eq (hnames : names.Nodup) (d : Data) :
    d.fields? names = (d.entries? names).bind fun fields => names.mapM (field? fields) := by
  cases d with
  | object fields => rfl
  | list items =>
    rw [fields?, entries?]
    split
    · next hlength => exact (mapM_field?_zip hnames hlength).symm
    · rfl
  | _ => rfl

theorem filled_eq_singleton_iff {d : Data} :
    f.filled fields = [(f.name, d)] ↔
      ∃ value, field? fields f.name = some value ∧ f.value? value = some d := by
  rw [Field.filled, field?]
  generalize (fields.filter fun g => g.1 == f.name) = given
  rcases given with _ | ⟨g, _ | ⟨g', given⟩⟩
  · cases hdefault : f.default? <;> simp [Field.value?, hdefault]
  · simp [Field.value?]
  · simp

theorem name_eq_of_mem_filled {g : Text × Data} (h : g ∈ f.filled fields) : g.1 = f.name := by
  rw [Field.filled] at h
  split at h
  · obtain ⟨d, -, rfl⟩ := List.mem_map.1 h
    rfl
  · obtain ⟨d, -, rfl⟩ := List.mem_map.1 h
    rfl

theorem flatMap_filled_eq_iff {written : List (Field × Data)}
    (hnames : (written.map fun w => w.1.name).Nodup) :
    (written.map (·.1)).flatMap (fun f => f.filled fields) =
        written.map (fun w => (w.1.name, w.2)) ↔
      ∀ w ∈ written, w.1.filled fields = [(w.1.name, w.2)] := by
  induction written with
  | nil => simp
  | cons w written ih =>
    obtain ⟨hw, hnames⟩ := List.nodup_cons.1 hnames
    have hother {g : Text × Data} (hg : g.1 = w.1.name) (hmem : ∃ w' ∈ written, g.1 = w'.1.name) :
        False := by
      obtain ⟨w', hw', heq⟩ := hmem
      exact hw (List.mem_map.2 ⟨w', hw', heq.symm.trans hg⟩)
    rw [List.forall_mem_cons, ← ih hnames, List.map_cons, List.map_cons, List.flatMap_cons]
    constructor
    · intro h
      cases hfilled : w.1.filled fields with
      | nil =>
        rw [hfilled, List.nil_append] at h
        have hmem : (w.1.name, w.2) ∈ (written.map (·.1)).flatMap fun f => f.filled fields :=
          h ▸ List.mem_cons_self
        obtain ⟨f, hf, hg⟩ := List.mem_flatMap.1 hmem
        obtain ⟨w', hw', rfl⟩ := List.mem_map.1 hf
        exact (hother rfl ⟨w', hw', name_eq_of_mem_filled hg⟩).elim
      | cons g given =>
        rw [hfilled] at h
        obtain ⟨rfl, hrest⟩ := List.cons.inj h
        cases given with
        | nil => exact ⟨rfl, hrest⟩
        | cons g' given =>
          have hgiven : g' ∈ w.1.filled fields := by simp [hfilled]
          have hg' : g'.1 = w.1.name := name_eq_of_mem_filled hgiven
          have hmem : g' ∈ written.map fun w => (w.1.name, w.2) := hrest ▸ List.mem_cons_self
          obtain ⟨w', hw', rfl⟩ := List.mem_map.1 hmem
          exact (hother hg' ⟨w', hw', rfl⟩).elim
    · rintro ⟨hfilled, hrest⟩
      rw [hfilled, hrest]
      rfl

/-- The normal form of some data is an object with certain fields exactly when each of these is the
normal value of a field that is read. -/
theorem completed_eq_object_iff {written : List (Field × Data)}
    (hnames : (written.map fun w => w.1.name).Nodup) (d : Data) :
    d.completed (written.map (·.1)) = object (written.map fun w => (w.1.name, w.2)) ↔
      ∃ values, d.fields? (written.map fun w => w.1.name) = some values ∧
        List.Forall₂ (fun w value => w.1.value? value = some w.2) written values := by
  have hmap : (written.map (·.1)).map Field.name = written.map fun w => w.1.name := List.map_map
  rw [fields?_eq hnames, completed, hmap]
  cases hentries : d.entries? (written.map fun w => w.1.name) with
  | none =>
    constructor
    · rintro rfl
      cases hentries
    · rintro ⟨values, hvalues, -⟩
      cases hvalues
  | some fields =>
    simp only [Option.bind_some, List.mapM_map, object.injEq]
    rw [exists_mapM_eq_some_iff, flatMap_filled_eq_iff hnames]
    simp only [filled_eq_singleton_iff, Function.comp_apply]

/-- A record is read from the values of its fields exactly when the normal form of the data is the
written form of the record. -/
theorem bind_fields?_eq_some_iff {α : Type} {read : List (Option Data) → Option α} {a : α}
    (written : List (Field × Data)) (hnames : (written.map fun w => w.1.name).Nodup)
    (hread : ∀ values, read values = some a ↔
      List.Forall₂ (fun w value => w.1.value? value = some w.2) written values) (d : Data) :
    (d.fields? (written.map fun w => w.1.name)).bind read = some a ↔
      d.completed (written.map (·.1)) = object (written.map fun w => (w.1.name, w.2)) := by
  rw [completed_eq_object_iff hnames, Option.bind_eq_some_iff]
  simp only [hread]

theorem natural?_eq_some_iff {d : Data} {n : Nat} :
    d.natural? = some n ↔ d = ofNat n ∧ n < UInt64.size := by
  constructor
  · intro h
    unfold natural? at h
    split at h
    · next m =>
      split at h
      · next hm =>
        cases h
        exact ⟨rfl, hm⟩
      · cases h
    · cases h
  · rintro ⟨rfl, hn⟩
    exact if_pos hn

def optionalField (name : Text) : Field where
  name := name
  default? := some null

theorem optional?_eq_some_iff {name : Text} {value : Option Data} {t : Option Text} :
    optional? value = some t ↔ (optionalField name).value? value = some (ofOption t) := by
  rcases value with _ | d
  · cases t <;> simp [optional?, ofOption, Field.value?, optionalField]
  · cases d <;> cases t <;> simp [optional?, ofOption, Field.value?, optionalField]

end Data

namespace Label

def fields : List Data.Field :=
  [{ name := "name" }, { name := "color", default? := some (.text []) }]

theorem nodup_fields : (fields.map Data.Field.name).Nodup := by decide

def normal (d : Data) : Data := d.completed fields

theorem ofData?_eq_some_iff {d : Data} {l : Label} : ofData? d = some l ↔ normal d = l.toData := by
  obtain ⟨name, color⟩ := l
  refine Data.bind_fields?_eq_some_iff (fields.zip [.text name, .text color]) nodup_fields
    (fun values => ?_) d
  constructor
  · intro h
    split at h
    · cases h
      exact .cons rfl (.cons rfl .nil)
    · cases h
      exact .cons rfl (.cons rfl .nil)
    · cases h
  · rintro (_ | @⟨_, n, _, _, hname, _ | @⟨_, c, _, _, hcolor, _ | _⟩⟩)
    obtain rfl : n = some (.text name) := by cases n <;> exact hname
    cases c <;> cases hcolor <;> rfl

theorem normal_toData (l : Label) : normal l.toData = l.toData := rfl

theorem ofData?_toData (l : Label) : ofData? l.toData = some l :=
  ofData?_eq_some_iff.2 l.normal_toData

end Label

namespace ConfigEntry

def fields : List Data.Field := [{ name := "key" }, { name := "value" }]

theorem nodup_fields : (fields.map Data.Field.name).Nodup := by decide

def normal (d : Data) : Data := d.completed fields

theorem ofData?_eq_some_iff {d : Data} {e : ConfigEntry} :
    ofData? d = some e ↔ normal d = e.toData := by
  obtain ⟨key, value⟩ := e
  refine Data.bind_fields?_eq_some_iff (fields.zip [.text key, .text value]) nodup_fields
    (fun values => ?_) d
  constructor
  · intro h
    split at h
    · cases h
      exact .cons rfl (.cons rfl .nil)
    · cases h
  · rintro (_ | @⟨_, k, _, _, hkey, _ | @⟨_, v, _, _, hvalue, _ | _⟩⟩)
    obtain rfl : k = some (.text key) := by cases k <;> exact hkey
    obtain rfl : v = some (.text value) := by cases v <;> exact hvalue
    rfl

theorem ofData?_toData (e : ConfigEntry) : ofData? e.toData = some e :=
  ofData?_eq_some_iff.2 rfl

end ConfigEntry

namespace IssueState

def normal : Data → Data
  | .object [(t, .null)] => .text t
  | d => d

theorem ofName?_eq_some_iff {t : Text} {s : IssueState} : ofName? t = some s ↔ t = s.name := by
  constructor
  · intro h
    exact (beq_iff_eq.1 (List.find?_some (p := fun s : IssueState => s.name == t) h)).symm
  · rintro rfl
    cases s <;> decide

theorem ofData?_eq_some_iff {d : Data} {s : IssueState} :
    ofData? d = some s ↔ normal d = s.toData := by
  unfold ofData?
  split
  · next t =>
    have hname : normal (.text t) = s.toData ↔ t = s.name := by simp [normal, toData]
    exact ofName?_eq_some_iff.trans hname.symm
  · next t =>
    have hname : normal (.object [(t, .null)]) = s.toData ↔ t = s.name := by simp [normal, toData]
    exact ofName?_eq_some_iff.trans hname.symm
  · next htext hobject =>
    have hnormal : normal d = d := by
      unfold normal
      split
      · exact (hobject _ rfl).elim
      · rfl
    rw [hnormal]
    exact ⟨nofun, fun h => (htext _ h).elim⟩

end IssueState

namespace Issue

def normalLabels : Data → Data
  | .list items => .list (items.map Label.normal)
  | d => d

def stateField : Data.Field where
  name := "state"
  default? := some IssueState.opened.toData
  normal := IssueState.normal

def labelsField : Data.Field where
  name := "labels"
  default? := some (.list [])
  normal := normalLabels

def fields : List Data.Field :=
  [{ name := "number" }, { name := "title" }, Data.optionalField "body",
    Data.optionalField "assignee", stateField, labelsField]

theorem nodup_fields : (fields.map Data.Field.name).Nodup := by decide

def normal (d : Data) : Data := d.completed fields

def state? : Option Data → Option IssueState
  | none => some .opened
  | some d => IssueState.ofData? d

def labels? : Option Data → Option (List Label)
  | none => some []
  | some d => d.list?.bind fun items => items.mapM Label.ofData?

theorem state?_eq_some_iff {value : Option Data} {s : IssueState} :
    state? value = some s ↔ stateField.value? value = some s.toData := by
  cases value with
  | none =>
    cases s <;> simp [state?, Data.Field.value?, stateField, IssueState.toData, IssueState.name]
  | some d => exact IssueState.ofData?_eq_some_iff.trans (Option.some_inj).symm

theorem labels?_eq_some_iff {value : Option Data} {ls : List Label} :
    labels? value = some ls ↔ labelsField.value? value = some (.list (ls.map Label.toData)) := by
  cases value with
  | none => cases ls <;> simp [labels?, Data.Field.value?, labelsField]
  | some d =>
    cases d with
    | list items =>
      change items.mapM Label.ofData? = some ls ↔
        some (Data.list (items.map Label.normal)) = some (.list (ls.map Label.toData))
      rw [mapM_eq_some_iff, Option.some_inj, Data.list.injEq, ← List.forall₂_eq_eq_eq,
        List.forall₂_map_left_iff, List.forall₂_map_right_iff]
      simp only [Label.ofData?_eq_some_iff]
    | _ => exact ⟨nofun, nofun⟩

def read? : List (Option Data) → Option Issue
  | [some number, some (.text title), body, assignee, state, labels] => do
    let number ← number.natural?
    let body ← Data.optional? body
    let assignee ← Data.optional? assignee
    let state ← state? state
    let labels ← labels? labels
    return ⟨.ofNat number, title, body, assignee, state, labels⟩
  | _ => none

theorem ofData?_eq (d : Data) : ofData? d = (d.fields? fieldNames).bind read? := by
  change (d.fields? fieldNames).bind _ = _
  congr
  funext values
  split
  · next state labels =>
    cases state <;> cases labels <;> simp [read?, state?, labels?, Option.bind_assoc]
  · next hvalues =>
    unfold read?
    split
    · exact (hvalues _ _ _ _ _ _ rfl).elim
    · rfl

def writtenFields (i : Issue) : List (Data.Field × Data) :=
  fields.zip [.ofNat i.number.toNat, .text i.title, .ofOption i.body, .ofOption i.assignee,
    i.state.toData, .list (i.labels.map Label.toData)]

theorem read?_eq_some_iff {values : List (Option Data)} {i : Issue} :
    read? values = some i ↔
      List.Forall₂ (fun w value => w.1.value? value = some w.2) i.writtenFields values := by
  obtain ⟨number, title, body, assignee, state, labels⟩ := i
  constructor
  · intro h
    unfold read? at h
    split at h
    · next b a s ls =>
      obtain ⟨n, hn, h⟩ := Option.bind_eq_some_iff.1 h
      obtain ⟨_, hb, h⟩ := Option.bind_eq_some_iff.1 h
      obtain ⟨_, ha, h⟩ := Option.bind_eq_some_iff.1 h
      obtain ⟨_, hs, h⟩ := Option.bind_eq_some_iff.1 h
      obtain ⟨_, hls, h⟩ := Option.bind_eq_some_iff.1 h
      cases h
      obtain ⟨rfl, hlt⟩ := Data.natural?_eq_some_iff.1 hn
      have hnumber : some (Data.ofNat n) = some (Data.ofNat (UInt64.ofNat n).toNat) := by
        rw [UInt64.toNat_ofNat_of_lt' hlt]
      exact .cons hnumber (.cons rfl (.cons (Data.optional?_eq_some_iff.1 hb)
        (.cons (Data.optional?_eq_some_iff.1 ha) (.cons (state?_eq_some_iff.1 hs)
          (.cons (labels?_eq_some_iff.1 hls) .nil)))))
    · cases h
  · rintro (_ | @⟨_, n, _, _, hnumber, _ | @⟨_, t, _, _, htitle, _ | ⟨hbody,
      _ | ⟨hassignee, _ | ⟨hstate, _ | ⟨hlabels, _ | _⟩⟩⟩⟩⟩⟩)
    obtain rfl : n = some (.ofNat number.toNat) := by cases n <;> exact hnumber
    obtain rfl : t = some (.text title) := by cases t <;> exact htitle
    have hnatural : (Data.ofNat number.toNat).natural? = some number.toNat :=
      Data.natural?_eq_some_iff.2 ⟨rfl, number.toNat_lt⟩
    have hbody := Data.optional?_eq_some_iff.2 hbody
    have hassignee := Data.optional?_eq_some_iff.2 hassignee
    have hstate := state?_eq_some_iff.2 hstate
    have hlabels := labels?_eq_some_iff.2 hlabels
    simp [read?, hnatural, hbody, hassignee, hstate, hlabels, UInt64.ofNat_toNat]

theorem ofData?_eq_some_iff {d : Data} {i : Issue} : ofData? d = some i ↔ normal d = i.toData := by
  rw [ofData?_eq]
  exact Data.bind_fields?_eq_some_iff i.writtenFields nodup_fields (fun _ => read?_eq_some_iff) d

theorem normal_toData (i : Issue) : normal i.toData = i.toData := by
  have hlabels : (i.labels.map Label.toData).map Label.normal = i.labels.map Label.toData := by
    rw [List.map_map]
    exact List.map_congr_left fun l _ => l.normal_toData
  change Data.object [_, _, _, _, _, ("labels",
    .list ((i.labels.map Label.toData).map Label.normal))] = i.toData
  rw [hlabels]
  rfl

theorem ofData?_toData (i : Issue) : ofData? i.toData = some i :=
  ofData?_eq_some_iff.2 i.normal_toData

end Issue

/-- A record is read back as it was written. Data is read as a record exactly when its normal form
is the written form of that record. -/
theorem reading_normalizes :
    (∀ i : Issue, Issue.ofData? i.toData = some i) ∧
    (∀ l : Label, Label.ofData? l.toData = some l) ∧
    (∀ e : ConfigEntry, ConfigEntry.ofData? e.toData = some e) ∧
    (∀ d i, Issue.ofData? d = some i ↔ Issue.normal d = i.toData) ∧
    (∀ d l, Label.ofData? d = some l ↔ Label.normal d = l.toData) ∧
    ∀ d e, ConfigEntry.ofData? d = some e ↔ ConfigEntry.normal d = e.toData :=
  ⟨Issue.ofData?_toData, Label.ofData?_toData, ConfigEntry.ofData?_toData,
    fun _ _ => Issue.ofData?_eq_some_iff, fun _ _ => Label.ofData?_eq_some_iff,
    fun _ _ => ConfigEntry.ofData?_eq_some_iff⟩

example : Issue.normal (.object [("title", .text "t"), ("votes", .ofNat 2), ("number", .ofNat 1),
      ("labels", .list [.list [.text "bug"], .object [("id", .null), ("name", .text "ui")]])]) =
    (Issue.mk 1 "t" none none .opened [⟨"bug", []⟩, ⟨"ui", []⟩]).toData :=
  rfl

def issueData (state label : Data) : Data :=
  .object [("number", .ofNat 1), ("title", .text "t"), ("body", .null), ("assignee", .null),
    ("state", state), ("labels", .list [label])]

/-- A label that is written as a list and a state that is written as an object are written in
another form when they have been read. -/
theorem reading_rewrites_complete_issues :
    (∃ i, Issue.ofData? (issueData (.text "open") (.list [.text "bug", .text "f00"])) = some i ∧
      i.toData ≠ issueData (.text "open") (.list [.text "bug", .text "f00"])) ∧
    ∃ i, Issue.ofData? (issueData (.object [("closed", .null)])
        (.object [("name", .text "bug"), ("color", .text "f00")])) = some i ∧
      i.toData ≠ issueData (.object [("closed", .null)])
        (.object [("name", .text "bug"), ("color", .text "f00")]) := by
  refine ⟨⟨⟨1, "t", none, none, .opened, [⟨"bug", "f00"⟩]⟩, rfl, ?_⟩,
    ⟨⟨1, "t", none, none, .closed, [⟨"bug", "f00"⟩]⟩, rfl, ?_⟩⟩
  · nofun
  · nofun

end Listing
