import Listing.Template.Argument
import Listing.Template.Directive

namespace Listing

/-- Each node but the last holds what follows it in the same body. A color span also holds the name
of the value that decides its color if it is automatic, and a call its raw arguments and the first
defect inside them. -/
inductive Template
  | done
  | broken (defect : Defect)
  | literal (c : Char) (rest : Template)
  | value (name : Text) (rest : Template)
  | span (color : Text) (subject : Option Text) (body rest : Template)
  | condition (key : Text) (body rest : Template)
  | call (name : Text) (args : List Text) (flaw : Option Defect) (rest : Template)

namespace Template

/-- The leftmost broken leaf, also in bodies and arguments that need not be rendered. -/
def defect? : Template → Option Defect
  | done => none
  | broken d => some d
  | literal _ rest => rest.defect?
  | value _ rest => rest.defect?
  | span _ _ body rest => body.defect?.or rest.defect?
  | condition _ body rest => body.defect?.or rest.defect?
  | call _ _ flaw rest => flaw.or rest.defect?

def read (pos : Nat) (t : Text) : Template :=
  match t with
  | [] => done
  | c :: t =>
    if c = '[' then
      match _h : bracketed t with
      | .error fault => broken ⟨fault, pos⟩
      | .ok p =>
        span p.head (subject? p.body) (read (pos + p.head.size + 2) p.body)
          (read (pos + p.head.size + p.body.size + 3) p.rest)
    else if c = '?' then
      match _h : braced t with
      | .error fault => broken ⟨fault, pos⟩
      | .ok p =>
        condition p.head (read (pos + p.head.size + 2) p.body)
          (read (pos + p.head.size + p.body.size + 3) p.rest)
    else if c = '@' then
      match _h : braced t with
      | .error fault => broken ⟨fault, pos⟩
      | .ok p =>
        call p.head (arguments p.body)
          ((located (pos + p.head.size + 2) (arguments p.body)).attach.findSome? fun a =>
            (read a.1.1 a.1.2).defect?)
          (read (pos + p.head.size + p.body.size + 3) p.rest)
    else if c = '$' ∧ valueName t ≠ [] then
      value (valueName t)
        (read (pos + 1 + (valueName t).size) (t.drop (valueName t).length))
    else literal c (read (pos + c.utf8Size) t)
termination_by t.length
decreasing_by
  all_goals try simp only [List.length_cons, List.length_drop]
  · have := length_body_bracketed _h; omega
  · have := length_rest_bracketed _h; omega
  · have := length_body_braced _h; omega
  · have := length_rest_braced _h; omega
  · have := length_body_braced _h
    have := length_le_of_mem_arguments (mem_of_mem_located a.2)
    omega
  · have := length_rest_braced _h; omega
  · omega
  · omega

def ofText (t : Text) : Template := read 0 t

def validate (t : Text) : Except Malformed Unit :=
  match (ofText t).defect? with
  | none => .ok ()
  | some d => .error (d.within t)

theorem findSome?_attach {α β : Type} (l : List α) (f : α → Option β) :
    (l.attach.findSome? fun a => f a.1) = l.findSome? f := by
  conv => rhs; rw [← List.attach_map_subtype_val l]
  rw [List.findSome?_map]
  rfl

section Equations

variable (pos : Nat) {t : Text} {p : Part} {fault : Fault}

theorem read_nil : read pos [] = done := by rw [read]

theorem read_span (h : bracketed t = .ok p) :
    read pos ('[' :: t) = span p.head (subject? p.body) (read (pos + p.head.size + 2) p.body)
      (read (pos + p.head.size + p.body.size + 3) p.rest) := by
  rw [read]
  simp only [↓reduceIte]
  split <;> simp_all

theorem read_span_broken (h : bracketed t = .error fault) :
    read pos ('[' :: t) = broken ⟨fault, pos⟩ := by
  rw [read]
  simp only [↓reduceIte]
  split <;> simp_all

theorem read_condition (h : braced t = .ok p) :
    read pos ('?' :: t) = condition p.head (read (pos + p.head.size + 2) p.body)
      (read (pos + p.head.size + p.body.size + 3) p.rest) := by
  rw [read]
  simp only [Char.reduceEq, ↓reduceIte]
  split <;> simp_all

theorem read_condition_broken (h : braced t = .error fault) :
    read pos ('?' :: t) = broken ⟨fault, pos⟩ := by
  rw [read]
  simp only [Char.reduceEq, ↓reduceIte]
  split <;> simp_all

theorem read_call (h : braced t = .ok p) :
    read pos ('@' :: t) = call p.head (arguments p.body)
      ((located (pos + p.head.size + 2) (arguments p.body)).findSome? fun a =>
        (read a.1 a.2).defect?)
      (read (pos + p.head.size + p.body.size + 3) p.rest) := by
  rw [read]
  simp only [Char.reduceEq, ↓reduceIte]
  split
  · simp_all
  · next q hq =>
    obtain rfl : q = p := by simpa [h] using hq.symm
    congr 1
    exact findSome?_attach _ fun a : Nat × Text => (read a.1 a.2).defect?

theorem read_call_broken (h : braced t = .error fault) :
    read pos ('@' :: t) = broken ⟨fault, pos⟩ := by
  rw [read]
  simp only [Char.reduceEq, ↓reduceIte]
  split <;> simp_all

theorem read_value (h : valueName t ≠ []) :
    read pos ('$' :: t) = value (valueName t)
      (read (pos + 1 + (valueName t).size) (t.drop (valueName t).length)) := by
  rw [read]
  simp [h]

theorem read_dollar (h : valueName t = []) :
    read pos ('$' :: t) = literal '$' (read (pos + 1) t) := by
  rw [read]
  simp [h]
  rfl

theorem read_literal {c : Char} (h : c ∉ ['[', '?', '@', '$']) :
    read pos (c :: t) = literal c (read (pos + c.utf8Size) t) := by
  simp only [List.mem_cons, List.not_mem_nil, or_false, not_or] at h
  rw [read]
  simp [h]

end Equations

end Template

end Listing
