import Listing.Text

namespace Listing

/-- The two ways in which a directive can be malformed: a delimiter that is never closed, and a
color span without a colon. -/
inductive Fault
  | unclosed (opener closer : Char)
  | missingColon
  deriving DecidableEq

def Fault.message : Fault → Text
  | .unclosed opener closer =>
    ("unbalanced '" : Text) ++ opener :: ("': no matching '" : Text) ++ closer :: ("'" : Text)
  | .missingColon => "color span is missing ':' between color and text"

structure Defect where
  fault : Fault
  offset : Nat
  deriving DecidableEq

structure Malformed where
  fault : Fault
  template : Text
  offset : Nat
  deriving DecidableEq

def Defect.within (template : Text) (d : Defect) : Malformed := ⟨d.fault, template, d.offset⟩

namespace Malformed

def message (e : Malformed) : Text :=
  e.fault.message ++ (" at offset " : Text) ++ Text.decimal e.offset

def lastLine (t : Text) : Text := (t.reverse.takeWhile (· != '\n')).reverse

def firstLine (t : Text) : Text := t.takeWhile (· != '\n')

/-- The line of the template that holds the defect, and under it a caret and the fault. A template
of several lines gets the number of the line as a header. -/
def excerpt (e : Malformed) : Text :=
  let (before, after) := Text.splitBytes e.offset e.template
  let header : Text :=
    if '\n' ∈ e.template then
      ("line " : Text) ++ Text.decimal (before.count '\n' + 1) ++ (":\n" : Text)
    else []
  header ++ lastLine before ++ firstLine after ++ '\n' ::
    List.replicate (lastLine before).length ' ' ++ ("^ " : Text) ++ e.fault.message

end Malformed

end Listing
