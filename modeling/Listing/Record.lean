import Listing.Data

namespace Listing

structure ConfigEntry where
  key : Text
  value : Text
  deriving DecidableEq

namespace ConfigEntry

def toData (e : ConfigEntry) : Data := .object [("key", .text e.key), ("value", .text e.value)]

def ofData? (d : Data) : Option ConfigEntry := do
  match ← d.fields? ["key", "value"] with
  | [some (.text key), some (.text value)] => some ⟨key, value⟩
  | _ => none

end ConfigEntry

structure Label where
  name : Text
  color : Text
  deriving DecidableEq

namespace Label

def toData (l : Label) : Data := .object [("name", .text l.name), ("color", .text l.color)]

def ofData? (d : Data) : Option Label := do
  match ← d.fields? ["name", "color"] with
  | [some (.text name), none] => some ⟨name, []⟩
  | [some (.text name), some (.text color)] => some ⟨name, color⟩
  | _ => none

end Label

inductive IssueState
  | opened
  | closed
  deriving DecidableEq

namespace IssueState

def name : IssueState → Text
  | opened => "open"
  | closed => "closed"

def ofName? (t : Text) : Option IssueState := [opened, closed].find? fun s => s.name == t

def toData (s : IssueState) : Data := .text s.name

/-- A state is written as its name, or as an object whose only field is its name, with no value. -/
def ofData? : Data → Option IssueState
  | .text t => ofName? t
  | .object [(t, .null)] => ofName? t
  | _ => none

end IssueState

structure Issue where
  number : UInt64
  title : Text
  body : Option Text := none
  assignee : Option Text := none
  state : IssueState := .opened
  labels : List Label := []
  deriving DecidableEq

namespace Issue

def withBody (i : Issue) (t : Text) : Issue := { i with body := some t }

def withAssignee (i : Issue) (login : Text) : Issue := { i with assignee := some login }

def addLabel (i : Issue) (l : Label) : Issue := { i with labels := i.labels ++ [l] }

def close (i : Issue) : Issue := { i with state := .closed }

def isOpen (i : Issue) : Bool := i.state == .opened

def isDescribed (i : Issue) : Bool :=
  match i.body with
  | none | some [] => false
  | some (_ :: _) => true

def fieldNames : List Text := ["number", "title", "body", "assignee", "state", "labels"]

def toData (i : Issue) : Data :=
  .object [("number", .ofNat i.number.toNat), ("title", .text i.title), ("body", .ofOption i.body),
    ("assignee", .ofOption i.assignee), ("state", i.state.toData),
    ("labels", .list (i.labels.map Label.toData))]

def ofData? (d : Data) : Option Issue := do
  match ← d.fields? fieldNames with
  | [some number, some (.text title), body, assignee, state, labels] => do
    let number ← number.natural?
    let body ← Data.optional? body
    let assignee ← Data.optional? assignee
    let state ← match state with
      | none => some IssueState.opened
      | some s => IssueState.ofData? s
    let labels ← match labels with
      | none => some []
      | some ls => do (← ls.list?).mapM Label.ofData?
    return ⟨.ofNat number, title, body, assignee, state, labels⟩
  | _ => none

end Issue

end Listing
