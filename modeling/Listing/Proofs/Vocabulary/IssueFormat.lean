import Listing.Color.Palette
import Listing.Proofs.Template.Draft
import Listing.Vocabulary

namespace Listing

inductive IssueValue
  | number | numberRight | numberLeft | assignee | assigneeRight | assigneeLeft | title
  | description | state | label
  deriving DecidableEq

namespace IssueValue

def name : IssueValue → Text
  | number => "number"
  | numberRight => "+number"
  | numberLeft => "number+"
  | assignee => "assignee"
  | assigneeRight => "+assignee"
  | assigneeLeft => "assignee+"
  | title => "title"
  | description => "description"
  | state => "state"
  | label => "label"

def text (columns : IssueColumns) (i : Issue) (l : Option Label) : IssueValue → Text
  | number => i.numberText
  | numberRight => Text.alignRight columns.numberWidth i.numberText
  | numberLeft => Text.alignLeft columns.numberWidth i.numberText
  | assignee => i.assigneeText
  | assigneeRight => Text.alignRight columns.assigneeWidth i.assigneeText
  | assigneeLeft => Text.alignLeft columns.assigneeWidth i.assigneeText
  | title => i.title
  | description => i.body.getD []
  | state => i.state.name
  | label => (l.map Label.name).getD []

end IssueValue

inductive IssueCondition
  | labelled | assigned | described | opened | closed
  deriving DecidableEq

namespace IssueCondition

def name : IssueCondition → Text
  | labelled => "labels"
  | assigned => "assignee"
  | described => "description"
  | opened => "open"
  | closed => "closed"

def Holds (i : Issue) : IssueCondition → Prop
  | labelled => i.labels ≠ []
  | assigned => i.assignee ≠ none
  | described => i.body ≠ none ∧ i.body ≠ some []
  | opened => i.state = .opened
  | closed => i.state = .closed

instance (i : Issue) (k : IssueCondition) : Decidable (k.Holds i) := by
  cases k <;> unfold Holds <;> infer_instance

end IssueCondition

/-- What a format writes between the labels of an issue: nothing, which stands for a space, a text
between all of them, or a text with another one before the last label. -/
inductive Joining
  | spaced
  | alike (s : Text)
  | ending (s last : Text)

namespace Joining

def written : Joining → List Text
  | spaced => []
  | alike s => [s]
  | ending s last => [s, last]

def between : Joining → Text
  | spaced => " "
  | alike s => s
  | ending s _ => s

def last : Joining → Text
  | spaced => " "
  | alike s => s
  | ending _ last => last

def join (j : Joining) (ts : List Text) : Text :=
  match ts.getLast? with
  | none => []
  | some t => if ts.dropLast = [] then t else j.between.intercalate ts.dropLast ++ j.last ++ t

end Joining

inductive IssueFormat
  | done
  | literal (s : Text) (rest : IssueFormat)
  | value (v : IssueValue) (rest : IssueFormat)
  | span (color : Text) (body rest : IssueFormat)
  | condition (k : IssueCondition) (body rest : IssueFormat)
  | labels (item : IssueFormat) (j : Joining) (rest : IssueFormat)

namespace IssueFormat

def draft : IssueFormat → Draft
  | done => .done
  | literal s rest => .literal s rest.draft
  | value v rest => .value v.name rest.draft
  | span color body rest => .span color body.draft rest.draft
  | condition k body rest => .condition k.name body.draft rest.draft
  | labels item j rest =>
    .call "labels" (item.draft :: j.written.map fun s => .literal s .done) rest.draft

def print (f : IssueFormat) : Text := f.draft.print

def IsLiteral (s : Text) : Prop := ∀ c ∈ s, c ∉ ['[', ']', '{', '}', '?', '@', '$', '\\']

instance (s : Text) : Decidable (IsLiteral s) := List.decidableBAll _ s

def IsShade (p : Palette) (color : Text) : Prop :=
  color = "auto" ∨ (p.color? color).isSome ∧
    ∀ c ∈ color, c ∉ ['[', ']', '{', '}', ':', '@', '$', '\\', '\n']

instance (p : Palette) (color : Text) : Decidable (IsShade p color) :=
  @instDecidableOr _ _ _ (@instDecidableAnd _ _ _ (List.decidableBAll _ color))

/-- Names are followed by a blank or the end of their body, and the current label is named only
inside of a list. -/
def WellFormed (p : Palette) : IssueFormat → Bool → Prop
  | done, _ => True
  | literal s rest, inside => IsLiteral s ∧ rest.WellFormed p inside
  | value v rest, inside =>
    (v = .label → inside = true) ∧ rest.draft.partsName = true ∧ rest.WellFormed p inside
  | span color body rest, inside =>
    IsShade p color ∧ body.WellFormed p inside ∧ rest.WellFormed p inside
  | condition _ body rest, inside => body.WellFormed p inside ∧ rest.WellFormed p inside
  | labels item j rest, inside =>
    item.WellFormed p true ∧ (∀ s ∈ j.written, IsLiteral s) ∧ rest.WellFormed p inside

instance decidableWellFormed (p : Palette) :
    (f : IssueFormat) → (inside : Bool) → Decidable (f.WellFormed p inside)
  | done, _ => isTrue trivial
  | literal _ rest, inside => @instDecidableAnd _ _ _ (decidableWellFormed p rest inside)
  | value _ rest, inside =>
    @instDecidableAnd _ _ _ (@instDecidableAnd _ _ _ (decidableWellFormed p rest inside))
  | span _ body rest, inside =>
    @instDecidableAnd _ _ _ (@instDecidableAnd _ _ (decidableWellFormed p body inside)
      (decidableWellFormed p rest inside))
  | condition _ body rest, inside =>
    @instDecidableAnd _ _ (decidableWellFormed p body inside) (decidableWellFormed p rest inside)
  | labels item j rest, inside =>
    @instDecidableAnd _ _ (decidableWellFormed p item true)
      (@instDecidableAnd _ _ (List.decidableBAll _ j.written) (decidableWellFormed p rest inside))

/-- What is printed of an issue without colors. Spans leave no trace, a condition that does not hold
takes its body away, and a list prints its item once for each label. -/
def plain (columns : IssueColumns) (i : Issue) : IssueFormat → Option Label → Text
  | done, _ => []
  | literal s rest, l => s ++ rest.plain columns i l
  | value v rest, l => v.text columns i l ++ rest.plain columns i l
  | span _ body rest, l => body.plain columns i l ++ rest.plain columns i l
  | condition k body rest, l =>
    if k.Holds i then body.plain columns i l ++ rest.plain columns i l else rest.plain columns i l
  | labels item j rest, l =>
    j.join (i.labels.map fun l => item.plain columns i (some l)) ++ rest.plain columns i l

def nesting : IssueFormat → Nat
  | done => 0
  | literal _ rest => rest.nesting
  | value _ rest => rest.nesting
  | span _ body rest => max body.nesting rest.nesting
  | condition _ body rest => max body.nesting rest.nesting
  | labels item _ rest => max (item.nesting + 1) rest.nesting

theorem IsLiteral.draft {s : Text} (hs : IsLiteral s) :
    ∀ c ∈ s, c ∉ '?' :: '$' :: '@' :: Template.delimiters := by
  have hsub : '?' :: '$' :: '@' :: Template.delimiters ⊆
      ['[', ']', '{', '}', '?', '@', '$', '\\'] := by decide
  exact fun c hc hm => hs c hc (hsub hm)

theorem isName_value (v : IssueValue) : Draft.IsName v.name := by cases v <;> decide

theorem isName_condition (k : IssueCondition) : Draft.IsName k.name := by cases k <;> decide

theorem WellFormed.draft {p : Palette} {f : IssueFormat} {inside : Bool}
    (h : f.WellFormed p inside) : f.draft.WellFormed := by
  induction f generalizing inside with
  | done => exact .done
  | literal s rest ih => exact .literal h.1.draft (ih h.2)
  | value v rest ih => exact .value (isName_value v) h.2.1 (ih h.2.2)
  | span color body rest ihbody ihrest =>
    have hsub : ':' :: '@' :: Template.delimiters ⊆
        ['[', ']', '{', '}', ':', '@', '$', '\\', '\n'] := by decide
    refine .span ?_ (ihbody h.2.1) (ihrest h.2.2)
    obtain rfl | ⟨_, hcolor⟩ := h.1
    · simp [Template.delimiters]
    · exact fun c hc hm => hcolor c hc (hsub hm)
  | condition k body rest ihbody ihrest =>
    exact .condition (fun c hc => ((isName_condition k).2 c hc).2) (ihbody h.1) (ihrest h.2)
  | labels item j rest ihitem ihrest =>
    refine .call (by decide) (by simp) ?_ ?_ (ihrest h.2.2)
    · intro a ha
      obtain rfl | ha := List.mem_cons.1 ha
      · exact ihitem h.1
      · obtain ⟨s, hs, rfl⟩ := List.mem_map.1 ha
        exact .literal (h.2.1 s hs).draft .done
    · -- A separator has no brace, so it is not taken for a call.
      rintro a ha ⟨name, rest, _, _, hprint⟩
      obtain ⟨s, hs, rfl⟩ := List.mem_map.1 ha
      rw [Draft.print, Draft.print, List.append_nil] at hprint
      have hbrace : '{' ∈ s := by simp [hprint]
      exact h.2.1 s hs '{' hbrace (by simp)

theorem map_print_written (j : Joining) :
    (j.written.map fun s => Draft.literal s .done).map Draft.print = j.written := by
  rw [List.map_map]
  exact (List.map_congr_left fun s _ => List.append_nil s).trans (List.map_id _)

theorem print_labels (item : IssueFormat) (j : Joining) (rest : IssueFormat) :
    (labels item j rest).print =
      '@' :: "labels" ++ '{' :: ['@'].intercalate (item.print :: j.written) ++
        '}' :: rest.print := by
  rw [print, draft, Draft.print, Draft.printAll_eq_map, List.map_cons, map_print_written]
  rfl

theorem not_mem_intercalate {c : Char} {sep : Text} (hsep : c ∉ sep) {ts : List Text}
    (hts : ∀ t ∈ ts, c ∉ t) : c ∉ sep.intercalate ts := by
  induction ts with
  | nil => simp
  | cons t ts ih =>
    have ht : c ∉ t := hts t List.mem_cons_self
    have hrest : c ∉ sep.intercalate ts := ih fun u hu => hts u (List.mem_cons_of_mem _ hu)
    cases ts with
    | nil => simpa using ht
    | cons u us =>
      rw [List.intercalate_cons_cons]
      simp only [List.mem_append, not_or]
      exact ⟨⟨ht, hsep⟩, hrest⟩

theorem not_mem_print {p : Palette} {f : IssueFormat} {inside : Bool} (h : f.WellFormed p inside) :
    '\\' ∉ f.print := by
  induction f generalizing inside with
  | done => simp [print, draft, Draft.print]
  | literal s rest ih =>
    have hs : '\\' ∉ s := fun hm => h.1 _ hm (by simp)
    have hrest := ih h.2
    simp_all [print, draft, Draft.print]
  | value v rest ih =>
    have hv : '\\' ∉ v.name := by cases v <;> decide
    have hrest := ih h.2.2
    simp_all [print, draft, Draft.print]
  | span color body rest ihbody ihrest =>
    have hcolor : '\\' ∉ color := by
      obtain rfl | ⟨_, hcolor⟩ := h.1
      · decide
      · exact fun hm => hcolor _ hm (by simp)
    have hbody := ihbody h.2.1
    have hrest := ihrest h.2.2
    simp_all [print, draft, Draft.print]
  | condition k body rest ihbody ihrest =>
    have hk : '\\' ∉ k.name := by cases k <;> decide
    have hbody := ihbody h.1
    have hrest := ihrest h.2
    simp_all [print, draft, Draft.print]
  | labels item j rest ihitem ihrest =>
    have hargs : '\\' ∉ ['@'].intercalate (item.print :: j.written) := by
      apply not_mem_intercalate (by decide)
      intro t ht
      obtain rfl | ht := List.mem_cons.1 ht
      · exact ihitem h.1
      · exact fun hm => h.2.1 t ht _ hm (by simp)
    have hrest := ihrest h.2.2
    rw [print_labels]
    simp [hargs, hrest]

theorem nesting_le_length (f : IssueFormat) : f.nesting ≤ f.print.length := by
  induction f with
  | done => exact Nat.zero_le _
  | literal s rest ih | value v rest ih =>
    simp only [print, draft, Draft.print, nesting, List.length_append, List.length_cons] at ih ⊢
    omega
  | span color body rest ihbody ihrest | condition k body rest ihbody ihrest =>
    simp only [print, draft, Draft.print, nesting, List.length_append, List.length_cons]
      at ihbody ihrest ⊢
    omega
  | labels item j rest ihitem ihrest =>
    obtain ⟨u, hu, _⟩ := Template.intercalate_eq_append item.print j.written
    rw [print_labels, hu]
    simp only [nesting, List.length_append, List.length_cons]
    omega

end IssueFormat

end Listing
