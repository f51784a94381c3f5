import Listing.Text

namespace Listing.Text

def isIntroducer (c : Char) : Bool := c == '\x1b' || c == '\u009b'

/-- How far a sequence has come: behind its introducer, a round bracket, other marks, up to four
digits of a parameter, a semicolon between parameters, or at its end. -/
inductive Progress
  | introduced
  | bracketed
  | opened
  | digits (count : Nat)
  | separated
  | closed
  deriving DecidableEq

namespace Progress

def isComplete : Progress → Bool
  | .digits _ | .closed => true
  | _ => false

def isMark (c : Char) : Bool := c == '[' || c == '#' || c == '?' || c == ';' || c == '(' || c == ')'

def isFinal (c : Char) : Bool :=
  decide ('A' ≤ c ∧ c ≤ 'P') || decide ('f' ≤ c ∧ c ≤ 'n') ||
    ['R', 'Z', 'c', 'q', 'r', 'y', '=', '<', '>'].contains c

/-- The progress after another character, if it can belong to the sequence. A round bracket with a
digit below three selects a character set. -/
def next (p : Progress) (c : Char) : Option Progress :=
  match p with
  | .closed => none
  | .introduced =>
    if c == '(' || c == ')' then some .bracketed
    else if isMark c then some .opened
    else if c.isDigit then some (.digits 1)
    else if isFinal c then some .closed
    else none
  | .bracketed =>
    if isMark c then some .opened
    else if c.isDigit then some (if c ≤ '2' then .closed else .digits 1)
    else if isFinal c then some .closed
    else none
  | .opened =>
    if isMark c then some .opened
    else if c.isDigit then some (.digits 1)
    else if isFinal c then some .closed
    else none
  | .digits n =>
    if c.isDigit then some (if n < 4 then .digits (n + 1) else .closed)
    else if c = ';' then some .separated
    else if isFinal c then some .closed
    else none
  | .separated =>
    if c.isDigit then some (.digits 1)
    else if c = ';' then some .separated
    else if isFinal c then some .closed
    else none

end Progress

def afterControl (p : Progress) : Text → Option Text
  | [] => none
  | c :: t =>
    match p.next c with
    | none => none
    | some q => (afterControl q t).or (if q.isComplete then some t else none)

def afterCommand : Text → Text
  | [] => []
  | '\x1b' :: '\\' :: t => t
  | c :: t => if c = '\x07' ∨ c = '\u009c' then t else afterCommand t

def opensCommand (c : Char) : Bool := [']', 'P', 'X', '^', '_'].contains c

def afterSequence : Text → Option Text
  | [] => none
  | [_] => none
  | i :: c :: t =>
    if i = '\x1b' ∧ opensCommand c then some (afterCommand t)
    else if isIntroducer i then afterControl .introduced (c :: t)
    else none

theorem length_afterControl {p : Progress} {t rest : Text} (h : afterControl p t = some rest) :
    rest.length < t.length := by
  induction t generalizing p rest with
  | nil => simp [afterControl] at h
  | cons c t ih =>
    rw [afterControl] at h
    split at h
    · simp at h
    · next q _ =>
      cases hq : afterControl q t with
      | some r =>
        have := ih hq
        simp_all
        omega
      | none =>
        rw [hq] at h
        grind

theorem length_afterCommand (t : Text) : (afterCommand t).length ≤ t.length := by
  fun_induction afterCommand t <;> grind

theorem length_afterSequence {t rest : Text} (h : afterSequence t = some rest) :
    rest.length < t.length := by
  unfold afterSequence at h
  split at h
  · simp at h
  · simp at h
  · next i c t =>
    split at h
    · have := length_afterCommand t
      grind
    · split at h
      · have := length_afterControl h
        grind
      · simp at h

def runsFrom (read : Text) (t : Text) : List Text :=
  match _h : afterSequence t with
  | some rest => read.reverse :: runsFrom [] rest
  | none =>
    match t with
    | [] => [read.reverse]
    | c :: t => runsFrom (c :: read) t
termination_by t.length
decreasing_by
  · exact length_afterSequence _h
  · simp

def runs (t : Text) : List Text := runsFrom [] t

end Listing.Text
