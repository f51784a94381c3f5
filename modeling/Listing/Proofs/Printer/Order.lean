import Mathlib
import Listing.Proofs.Printer.Made

namespace Listing

variable {α β R I : Type}

theorem widest_perm (measure : α → Nat) {xs ys : List α} (h : xs.Perm ys) :
    widest measure xs = widest measure ys := by
  have hcomm : LeftCommutative fun x n => max (measure x) n :=
    ⟨fun x y n => Nat.max_left_comm (measure x) (measure y) n⟩
  exact h.foldr_eq 0

theorem Issue.columns_perm (viewer : Option Text) {issues others : List Issue}
    (h : issues.Perm others) : Issue.columns issues viewer = Issue.columns others viewer := by
  rw [columns, columns, widest_perm _ h, widest_perm _ (h.filterMap assignee)]

theorem Label.columns_perm {labels others : List Label} (h : labels.Perm others) :
    Label.columns labels = Label.columns others := by
  rw [columns, columns, widest_perm _ h]

theorem forall₂_ofFn_iff {r : α → β → Prop} {n : Nat} {f : Fin n → α} {g : Fin n → β} :
    List.Forall₂ r (.ofFn f) (.ofFn g) ↔ ∀ i, r (f i) (g i) := by
  simp [List.forall₂_iff_get, Fin.forall_iff]

namespace Printer

/-- A listing with a line for each record, which is the same wherever the record stands. -/
structure FollowsOrder (listing : List R → Except ListingError (List Text)) : Prop where
  length_eq : ∀ records lines, listing records = .ok lines → lines.length = records.length
  exists_lines_iff : ∀ records others, records.Perm others →
    ((∃ lines, listing records = .ok lines) ↔ ∃ lines, listing others = .ok lines)
  reorder : ∀ (n : Nat) (records : Fin n → R) (lines : Fin n → Text) (σ : Equiv.Perm (Fin n)),
    listing (.ofFn records) = .ok (.ofFn lines) →
      listing (.ofFn (records ∘ σ)) = .ok (.ofFn (lines ∘ σ))

/-- A listing of records that are followed by others. -/
structure Joins (listing : List R → Except ListingError (List Text)) : Prop where
  both : ∀ records others lines more, listing records = .ok lines → listing others = .ok more →
    listing (records ++ others) = .ok (lines ++ more)
  first : ∀ records others e, listing records = .error e → listing (records ++ others) = .error e
  second : ∀ records others lines e, listing records = .ok lines → listing others = .error e →
    listing (records ++ others) = .error e

variable {pr : Printer} {kind : ListingKind} {v : Vocabulary (Scope R I)} {format? : Option Text}

/-- The vocabulary may be made for the records, as long as their order does not matter for it. -/
theorem followsOrder_lines (v : List R → Vocabulary (Scope R I))
    (hv : ∀ records others, records.Perm others → v records = v others) :
    FollowsOrder fun records => pr.lines kind (v records) format? records where
  length_eq records lines h := by
    obtain ⟨template, -, hlines⟩ := lines_eq_ok_iff.1 h
    exact hlines.length_eq.symm
  exists_lines_iff records others h := by
    have hsome (records others : List R) (h : records.Perm others) :
        (∃ lines, pr.lines kind (v records) format? records = .ok lines) →
          ∃ lines, pr.lines kind (v others) format? others = .ok lines := by
      rintro ⟨lines, hlines⟩
      obtain ⟨template, htemplate, hlines⟩ := lines_eq_ok_iff.1 hlines
      rw [hv records others h] at hlines
      obtain ⟨lines', hlines', -⟩ := List.perm_comp_forall₂ h.symm hlines
      exact ⟨lines', lines_eq_ok_iff.2 ⟨template, htemplate, hlines'⟩⟩
    exact ⟨hsome records others h, hsome others records h.symm⟩
  reorder n records lines σ h := by
    obtain ⟨template, htemplate, hlines⟩ := lines_eq_ok_iff.1 h
    refine lines_eq_ok_iff.2 ⟨template, htemplate, ?_⟩
    rw [hv _ _ (σ.ofFn_comp_perm records)]
    rw [forall₂_ofFn_iff] at hlines ⊢
    exact fun i => hlines (σ i)

theorem joins_lines : Joins fun records => pr.lines kind v format? records where
  both records others lines more h hmore := by
    rw [lines_append, h, hmore]
    rfl
  first records others e h := by
    rw [lines_append, h]
    rfl
  second records others lines e h he := by
    rw [lines_append, h, he]
    rfl

/-- Wherever a record stands, it has the same line. -/
theorem listings_follow_order (pr : Printer) (format? : Option Text) :
    FollowsOrder (fun issues => pr.listIssues issues format?) ∧
    FollowsOrder (fun labels => pr.listLabels labels format?) ∧
    FollowsOrder (fun entries => pr.listConfig entries format?) ∧
    Joins fun entries => pr.listConfig entries format? := by
  refine ⟨?_, ?_, ?_, joins_lines⟩
  · apply followsOrder_lines fun issues =>
      Issue.vocabulary (Issue.columns issues pr.viewer) pr.matcher
    intro issues others h
    rw [Issue.columns_perm _ h]
  · apply followsOrder_lines fun labels => Label.vocabulary (Label.columns labels) pr.matcher
    intro labels others h
    rw [Label.columns_perm h]
  · exact followsOrder_lines (fun _ => ConfigEntry.vocabulary) fun _ _ _ => rfl

def uncolored : Printer := ⟨⟨.standard, .ofList []⟩, .plain, TerminalColor.nearest, none⟩

def unequal : List Issue :=
  [⟨7, "x", none, some "é", .opened, []⟩, ⟨12, "y", none, none, .closed, []⟩,
    ⟨100, "z", none, some "bob", .opened, []⟩]

def unequalLines : List Text := ["  7 é   x", " 12     y", "100 bob z"]

theorem listings_follow_order_swapped :
    uncolored.listIssues
        [⟨12, "y", none, none, .closed, []⟩, ⟨7, "x", none, some "é", .opened, []⟩,
          ⟨100, "z", none, some "bob", .opened, []⟩] (some "$+number $assignee+ $title") =
      .ok [" 12     y", "  7 é   x", "100 bob z"] ∧
    (¬∃ lines, uncolored.listLabels [⟨"l", "[x:y]"⟩, ⟨"é", "k"⟩] (some "$color") = .ok lines) ∧
    uncolored.listConfig ([⟨"k", "é"⟩] ++ [⟨"l", []⟩]) (some "$key $value") =
      .ok ["k é", "l "] := by
  obtain ⟨hissues, -⟩ := listings_follow_order uncolored (some "$+number $assignee+ $title")
  obtain ⟨-, hlabels, -⟩ := listings_follow_order uncolored (some "$color")
  obtain ⟨-, -, -, hconfig⟩ := listings_follow_order uncolored (some "$key $value")
  have hlines : uncolored.listIssues unequal (some "$+number $assignee+ $title") =
      .ok unequalLines := by decide +kernel
  have hfails : uncolored.listLabels [⟨"é", "k"⟩, ⟨"l", "[x:y]"⟩] (some "$color") =
      .error (.paint (.unknownColor ⟨"x", 0⟩)) := by decide +kernel
  refine ⟨?_, ?_, ?_⟩
  · exact hissues.reorder 3 unequal.get unequalLines.get (Equiv.swap 0 1) hlines
  · rw [hlabels.exists_lines_iff _ _ (.swap _ _ [])]
    rintro ⟨lines, h⟩
    cases hfails.symm.trans h
  · exact hconfig.both [⟨"k", "é"⟩] [⟨"l", []⟩] ["k é"] ["l "] (by cbv) (by cbv)

end Printer

end Listing
