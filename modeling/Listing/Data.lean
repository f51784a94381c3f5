import Listing.Text

namespace Listing

/-- A number is `digits` with the decimal point moved `places` to the left. The fields of an object
stand in their order. -/
inductive Data
  | null
  | bool (b : Bool)
  | number (digits : Int) (places : Nat)
  | text (t : Text)
  | list (items : List Data)
  | object (fields : List (Text × Data))

instance : Inhabited Data := ⟨.null⟩

namespace Data

def text? : Data → Option Text
  | text t => some t
  | _ => none

def list? : Data → Option (List Data)
  | list items => some items
  | _ => none

def object? : Data → Option (List (Text × Data))
  | object fields => some fields
  | _ => none

def natural? : Data → Option Nat
  | number (.ofNat n) 0 => if n < UInt64.size then some n else none
  | _ => none

def ofNat (n : Nat) : Data := number n 0

/-- The values of the named fields of a record, which is an object or the list of the values in the
order of the names. Other fields of an object do not matter, and a named one stands there at most
once. A list may end early. -/
def fields? (names : List Text) : Data → Option (List (Option Data))
  | object fields => names.mapM fun n =>
    match fields.filter fun f => f.1 == n with
    | [] => some none
    | [f] => some (some f.2)
    | _ => none
  | list items =>
    if items.length ≤ names.length then
      some (items.map some ++ List.replicate (names.length - items.length) none)
    else none
  | _ => none

def ofOption : Option Text → Data
  | none => null
  | some t => text t

def optional? : Option Data → Option (Option Text)
  | none | some null => some none
  | some (text t) => some (some t)
  | _ => none

end Data

end Listing
