import Listing.Render.Resolver

namespace Listing

variable {R I : Type}

structure Scope (R I : Type) where
  record : R
  item : Option I

namespace Scope

def ofRecord (r : R) : Scope R I := ⟨r, none⟩

def focus (s : Scope R I) (i : I) : Scope R I := ⟨s.record, some i⟩

/-- The current item, on behalf of a name that makes sense only inside a list. -/
def itemFor (s : Scope R I) (name : Text) : Except ResolveError I :=
  match s.item with
  | some i => .ok i
  | none => .error (.outsideList name)

def describe (record : R → Text) (item : I → Text) (s : Scope R I) : Text :=
  let shown : Text :=
    match s.item with
    | some i => ("Some(" : Text) ++ item i ++ (")" : Text)
    | none => "None"
  ("Scope \x7b record: " : Text) ++ record s.record ++ (", item: " : Text) ++ shown ++
    (" \x7d" : Text)

end Scope

end Listing
