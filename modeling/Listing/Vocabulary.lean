import Listing.Color.Terminal
import Listing.Paint.Token
import Listing.Record
import Listing.Render.Scope
import Listing.Render.Vocabulary
import Listing.Text.Width

namespace Listing

variable {α : Type}

def widest (measure : α → Nat) (xs : List α) : Nat := xs.foldr (fun x n => max (measure x) n) 0

/-- The name of the terminal color for a label color, if that is one. -/
def labelColor (matcher : Matcher) (color : Text) : Option Text :=
  (Rgb.ofHex? color).map fun c => (matcher c).name

abbrev ConfigScope := Scope ConfigEntry Unit

namespace ConfigEntry

def vocabulary : Vocabulary ConfigScope :=
  Vocabulary.empty
    |>.defineValue "key" (fun s => .ok (escape s.record.key))
    |>.defineValue "value" (fun s => .ok (escape s.record.value))
    |>.defineCondition "value" (fun s => .ok !s.record.value.isEmpty)
    |>.defineColor "key" (fun _ => .ok (some ("Config_Key" : Text)))

end ConfigEntry

/-- A list inside a label has no items. -/
abbrev LabelScope := Scope Label Unit

structure LabelColumns where
  nameWidth : Nat := 0
  deriving DecidableEq

namespace Label

def columns (labels : List Label) : LabelColumns := ⟨widest (fun l => Text.width l.name) labels⟩

/-- The names that a template for labels can use. A name is padded before it is escaped, and a color
is put in as it is. -/
def vocabulary (columns : LabelColumns) (matcher : Matcher) : Vocabulary LabelScope :=
  Vocabulary.empty
    |>.defineValue "name" (fun s => .ok (escape s.record.name))
    |>.defineValue "+name" (fun s => .ok (escape (Text.alignRight columns.nameWidth s.record.name)))
    |>.defineValue "name+" (fun s => .ok (escape (Text.alignLeft columns.nameWidth s.record.name)))
    |>.defineValue "color" (fun s => .ok s.record.color)
    |>.defineColors ["name", "+name", "name+", "color"]
      (fun s => .ok (labelColor matcher s.record.color))

end Label

abbrev IssueScope := Scope Issue Label

/-- What the lines of a listing have in common: the widths of the padded columns, and the user whose
own issues stand out. -/
structure IssueColumns where
  numberWidth : Nat := 0
  assigneeWidth : Nat := 0
  viewer : Option Text := none
  deriving DecidableEq

namespace Issue

def numberText (i : Issue) : Text := Text.decimal i.number.toNat

def assigneeText (i : Issue) : Text := i.assignee.getD []

def columns (issues : List Issue) (viewer : Option Text) : IssueColumns where
  numberWidth := widest (fun i => i.numberText.length) issues
  assigneeWidth := widest Text.width (issues.filterMap assignee)
  viewer := viewer

def numberColor (i : Issue) : Text := if i.isOpen then "Issue_Open" else "Issue_Closed"

def assigneeColor (viewer : Option Text) (i : Issue) : Text :=
  if i.assignee.isSome ∧ i.assignee = viewer then "Issue_User_Self" else "Issue_User"

def renderLabels : Callee IssueScope := fun args s render =>
  match Separators.ofArguments args with
  | none => .ok none
  | some (item, separators) =>
    some <$> render.list item (s.record.labels.map s.focus) separators

/-- The names that a template for issues can use. Titles, bodies and names of labels are escaped, so
that they are painted as they are; the login of the assignee is put in without that. -/
def vocabulary (columns : IssueColumns) (matcher : Matcher) : Vocabulary IssueScope :=
  Vocabulary.empty
    |>.defineValue "number" (fun s => .ok s.record.numberText)
    |>.defineValue "+number"
      (fun s => .ok (Text.alignRight columns.numberWidth s.record.numberText))
    |>.defineValue "number+"
      (fun s => .ok (Text.alignLeft columns.numberWidth s.record.numberText))
    |>.defineValue "assignee" (fun s => .ok s.record.assigneeText)
    |>.defineValue "+assignee"
      (fun s => .ok (Text.alignRight columns.assigneeWidth s.record.assigneeText))
    |>.defineValue "assignee+"
      (fun s => .ok (Text.alignLeft columns.assigneeWidth s.record.assigneeText))
    |>.defineValue "title" (fun s => .ok (escape s.record.title))
    |>.defineValue "description" (fun s => .ok (escape (s.record.body.getD [])))
    |>.defineValue "state" (fun s => .ok s.record.state.name)
    |>.defineValue "label" (fun s => do return escape (← s.itemFor "label").name)
    |>.defineColors ["number", "+number", "number+"] (fun s => .ok (some s.record.numberColor))
    |>.defineColors ["assignee", "+assignee", "assignee+"]
      (fun s => .ok (some (s.record.assigneeColor columns.viewer)))
    |>.defineColor "label" (fun s => .ok (s.item.bind fun l => labelColor matcher l.color))
    |>.defineCondition "labels" (fun s => .ok !s.record.labels.isEmpty)
    |>.defineCondition "assignee" (fun s => .ok s.record.assignee.isSome)
    |>.defineCondition "description" (fun s => .ok s.record.isDescribed)
    |>.defineCondition "open" (fun s => .ok s.record.isOpen)
    |>.defineCondition "closed" (fun s => .ok !s.record.isOpen)
    |>.defineFunction "labels" renderLabels

end Issue

end Listing
