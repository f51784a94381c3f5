import Listing.Paint.Mode

namespace Listing

structure Sink where
  written : List UInt8 := []
  room : Option Nat := none

namespace Sink

def write (s : Sink) (t : Text) : Sink × Bool :=
  let bytes := t.utf8
  match s.room with
  | none => ({ s with written := s.written ++ bytes }, true)
  | some n =>
    (⟨s.written ++ bytes.take n, some (n - bytes.length)⟩, decide (bytes.length ≤ n))

def putLines (s : Sink) : List Text → Sink × Bool
  | [] => (s, true)
  | line :: lines =>
    match s.write (line ++ ['\n']) with
    | (s, true) => s.putLines lines
    | (s, false) => (s, false)

end Sink

inductive OutputError
  | unknownColor (error : UnknownColor)
  | full
  deriving DecidableEq

def OutputError.message : OutputError → Text
  | .unknownColor e => e.message
  | .full => "failed to write output: failed to write whole buffer"

/-- Paints a line and writes it. Nothing is written when it cannot be painted. -/
def printLine (p : Palette) (m : PaintMode) (s : Sink) (t : Text) :
    Sink × Except OutputError Unit :=
  match paint p m t with
  | .error e => (s, .error (.unknownColor e))
  | .ok line =>
    match s.putLines [line] with
    | (s, true) => (s, .ok ())
    | (s, false) => (s, .error .full)

end Listing
