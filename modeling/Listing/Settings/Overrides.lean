import Listing.Document.Read

namespace Listing

open Document

structure Overrides where
  issues : Option Text := none
  labels : Option Text := none
  config : Option Text := none
  colors : List (Text × Text) := []

namespace Overrides

def isNull (t : Text) : Bool := [("~" : Text), "null", "Null", "NULL"].contains t

def nullTag : List UInt8 := Text.utf8 "tag:yaml.org,2002:null"

/-- The text of a scalar, if it has a value. Plain ones without text or with a word for no value
have none, unless they are tagged as something else. -/
def value? (s : Scalar) : Option (Option Text) :=
  if !s.isPlain then some (some s.text)
  else
    match s.tag with
    | none => some (if s.text.isEmpty || isNull s.text then none else some s.text)
    | some tag =>
      if tag ≠ nullTag then some (some s.text)
      else if isNull s.text then some none
      else none

def optional? (root node : Node) : Option (Option Text) :=
  match root.resolve node with
  | .scalar _ s => value? s
  | _ => none

def text? (root node : Node) : Option Text :=
  match root.resolve node with
  | .scalar _ s => some s.text
  | _ => none

def entries? (root node : Node) : Option (List (Text × Node)) :=
  match root.resolve node with
  | .mapping _ es => es.mapM fun e => (·, e.2) <$> text? root e.1
  | .scalar _ s => if s.isPlain && s.text.isEmpty then some [] else none
  | .alias _ => none

def fields? (names : List Text) (es : List (Text × Node)) : Option (List (Option Node)) :=
  if es.all fun e => names.contains e.1 then
    names.mapM fun n =>
      match es.filter fun e => e.1 == n with
      | [] => some none
      | [e] => some (some e.2)
      | _ => none
  else none

def ofNode? (root : Node) : Option Overrides := do
  match ← fields? ["formats", "colors"] (← entries? root root) with
  | [formats, colors] =>
    match ← fields? ["issues", "labels", "config"]
        (← entries? root (formats.getD .nothing)) with
    | [issues, labels, config] => do
      let issues ← optional? root (issues.getD .nothing)
      let labels ← optional? root (labels.getD .nothing)
      let config ← optional? root (config.getD .nothing)
      let colors ← (← entries? root (colors.getD .nothing)).mapM fun e =>
        (e.1, ·) <$> text? root e.2
      return ⟨issues, labels, config, colors⟩
    | _ => none
  | _ => none

def read (t : Text) : Option Overrides :=
  if t.all Text.isBlank then some {} else Document.read t >>= ofNode?

end Overrides

end Listing
