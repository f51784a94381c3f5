import Listing.Document.Token

namespace Listing.Document

/-- A scalar as it is written: plain ones can mean something else than their text. -/
structure Scalar where
  isPlain : Bool
  tag : Option (List UInt8)
  text : Text
  deriving DecidableEq

/-- Anchors are numbers, by which an alias names its node. -/
inductive Node
  | scalar (anchor : Option Nat) (s : Scalar)
  | mapping (anchor : Option Nat) (entries : List (Node × Node))
  | alias (anchor : Nat)

def Node.nothing : Node := .scalar none ⟨true, none, []⟩

instance : Inhabited Node := ⟨.nothing⟩

mutual

def Node.anchored : Node → List (Nat × Node)
  | .scalar anchor s => anchor.toList.map (·, .scalar anchor s)
  | .mapping anchor es => anchor.toList.map (·, .mapping anchor es) ++ anchoredEntries es
  | .alias _ => []

def anchoredEntries : List (Node × Node) → List (Nat × Node)
  | [] => []
  | (key, value) :: es => key.anchored ++ value.anchored ++ anchoredEntries es

end

/-- The node that a node stands for. Of several with one anchor, an alias means the last. -/
def Node.resolve (root : Node) : Node → Node
  | .alias n => (root.anchored.reverse.lookup n).getD (.alias n)
  | node => node

structure Reading where
  tokens : List Token
  anchors : List (Text × Nat) := []

namespace Reading

def withAnchor (r : Reading) : Option Text → Option Nat × Reading
  | none => (none, r)
  | some name =>
    let n := r.anchors.length
    (some n, { r with anchors := (name, n) :: r.anchors.filter (·.1 != name) })

def properties? (hs : Handles) :
    List Token → Option (Option Text × Option (List UInt8) × List Token)
  | .anchor a :: .tag t :: ts | .tag t :: .anchor a :: ts =>
    (hs.resolve? t).map fun t => (some a, some t, ts)
  | .anchor a :: ts => some (some a, none, ts)
  | .tag t :: ts => (hs.resolve? t).map fun t => (none, some t, ts)
  | ts => some (none, none, ts)

def atNothing (r : Reading) : Bool :=
  match r.tokens with
  | .key :: _ | .value :: _ | .blockEnd :: _ => true
  | _ => false

def atFlowNothing (r : Reading) (afterKey : Bool) : Bool :=
  match r.tokens with
  | .value :: _ => afterKey
  | .comma :: _ | .flowEnd :: _ => true
  | _ => false

def skip (r : Reading) : Reading := { r with tokens := r.tokens.tail }

mutual

/-- Reads a node. A lone exclamation mark is no tag of a scalar that is written. The depth bounds
how far nodes are nested. -/
def node? (hs : Handles) : Nat → Reading → Option (Node × Reading)
  | 0, _ => none
  | depth + 1, r =>
    match r.tokens with
    | .alias name :: _ => (r.anchors.lookup name).map fun n => (.alias n, r.skip)
    | ts => do
      let (name, tag, ts) ← properties? hs ts
      let (anchor, r) := { r with tokens := ts }.withAnchor name
      match ts with
      | .scalar isPlain text :: _ =>
        let tag := if tag = some (Text.utf8 ['!']) then none else tag
        return (.scalar anchor ⟨isPlain, tag, text⟩, r.skip)
      | .blockStart :: _ => do
        let (es, r) ← blockEntries? hs depth r.skip
        return (.mapping anchor es, r)
      | .flowStart :: _ => do
        let (es, r) ← flowEntries? hs depth true r.skip
        return (.mapping anchor es, r)
      | _ =>
        if name.isSome ∨ tag.isSome then return (.scalar anchor ⟨true, tag, []⟩, r) else none

def blockEntries? (hs : Handles) : Nat → Reading → Option (List (Node × Node) × Reading)
  | 0, _ => none
  | depth + 1, r =>
    match r.tokens with
    | .blockEnd :: _ => some ([], r.skip)
    | .key :: _ => do
      let r := r.skip
      let (key, r) ← if r.atNothing then some (.nothing, r) else node? hs depth r
      let (value, r) ←
        if r.tokens.head? = some .value then
          let r := r.skip
          if r.atNothing then some (.nothing, r) else node? hs depth r
        else some (.nothing, r)
      let (es, r) ← blockEntries? hs depth r
      return ((key, value) :: es, r)
    | _ => none

def flowEntries? (hs : Handles) : Nat → Bool → Reading → Option (List (Node × Node) × Reading)
  | 0, _, _ => none
  | depth + 1, isFirst, r =>
    if r.tokens.head? = some .flowEnd then some ([], r.skip)
    else if !isFirst ∧ r.tokens.head? ≠ some .comma then none
    else
      let r := if isFirst then r else r.skip
      match r.tokens with
      | .flowEnd :: _ => some ([], r.skip)
      | .key :: _ => do
        let r := r.skip
        let (key, r) ← if r.atFlowNothing true then some (.nothing, r) else node? hs depth r
        let (value, r) ←
          if r.tokens.head? = some .value then
            let r := r.skip
            if r.atFlowNothing false then some (.nothing, r) else node? hs depth r
          else some (.nothing, r)
        let (es, r) ← flowEntries? hs depth false r
        return ((key, value) :: es, r)
      | _ => do
        let (key, r) ← node? hs depth r
        let (es, r) ← flowEntries? hs depth false r
        return ((key, .nothing) :: es, r)

end

end Reading

def Node.ofTokens? (hs : Handles) (ts : List Token) : Option (Node × List Token) :=
  (Reading.node? hs (2 * ts.length + 2) { tokens := ts }).map fun p => (p.1, p.2.tokens)

end Listing.Document
