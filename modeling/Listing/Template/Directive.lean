import Listing.Template.Defect
import Listing.Template.Delimiter

namespace Listing.Template

/-- Reads what follows the `[` of a color span: the color up to the first colon, and the body up to
the matching `]`. -/
def bracketed (t : Text) : Except Fault Part :=
  match closing '[' ']' 0 t with
  | none => .error (.unclosed '[' ']')
  | some (inner, rest) =>
    match Text.cut ':' inner with
    | none => .error .missingColon
    | some (color, body) => .ok ⟨color, body, rest⟩

/-- Reads what follows the `?` of a condition or the `@` of a call: the key or name up to the first
`{`, however far away it is, and the body up to the matching `}`. -/
def braced (t : Text) : Except Fault Part :=
  match Text.cut '{' t with
  | none => .error (.unclosed '{' '}')
  | some (head, t) =>
    match closing '{' '}' 0 t with
    | none => .error (.unclosed '{' '}')
    | some (body, rest) => .ok ⟨head, body, rest⟩

theorem bracketed_eq_ok {t : Text} {p : Part} (h : bracketed t = .ok p) :
    t = p.head ++ ':' :: p.body ++ ']' :: p.rest := by
  rw [bracketed] at h
  split at h
  · simp at h
  · next inner rest hc =>
    split at h
    · simp at h
    · next color body hb =>
      simp only [Except.ok.injEq] at h
      subst h
      rw [closing_eq_some hc, Text.cut_eq_some hb]

theorem braced_eq_ok {t : Text} {p : Part} (h : braced t = .ok p) :
    t = p.head ++ '{' :: p.body ++ '}' :: p.rest := by
  rw [braced] at h
  split at h
  · simp at h
  · next head t hb =>
    split at h
    · simp at h
    · next body rest hc =>
      simp only [Except.ok.injEq] at h
      subst h
      rw [Text.cut_eq_some hb, closing_eq_some hc]
      simp

theorem length_body_bracketed {t : Text} {p : Part} (h : bracketed t = .ok p) :
    p.body.length < t.length := by
  rw [bracketed_eq_ok h]; simp; omega

theorem length_rest_bracketed {t : Text} {p : Part} (h : bracketed t = .ok p) :
    p.rest.length < t.length := by
  rw [bracketed_eq_ok h]; simp; omega

theorem length_body_braced {t : Text} {p : Part} (h : braced t = .ok p) :
    p.body.length < t.length := by
  rw [braced_eq_ok h]; simp; omega

theorem length_rest_braced {t : Text} {p : Part} (h : braced t = .ok p) :
    p.rest.length < t.length := by
  rw [braced_eq_ok h]; simp; omega

def valueName (t : Text) : Text := t.takeWhile fun c => !Text.isBlank c

def endsSubject (c : Char) : Bool := Text.isBlank c || c == ']' || c == '}'

/-- The first named value in a raw body, which decides the color of an automatic span. A `$` without
a name is passed over. -/
def subject? : Text → Option Text
  | [] => none
  | c :: t =>
    if c = '$' then
      match t.takeWhile fun c => !endsSubject c with
      | [] => subject? t
      | name => some name
    else subject? t

end Listing.Template
