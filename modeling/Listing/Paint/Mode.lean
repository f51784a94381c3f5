import Listing.Paint.Stroke

namespace Listing

inductive PaintMode
  | colored
  | plain
  | tagged
  deriving DecidableEq

namespace Stroke

def shown : Stroke → Text
  | mark c _ => [c]
  | enter _ _ => []
  | leave _ _ => []

def source : Stroke → Text
  | mark _ raw => raw
  | enter _ raw => raw
  | leave _ _ => [']']

def inColor (color : Option TerminalColor) (t : Text) : Text :=
  match color with
  | none => t
  | some k => if t = [] then [] else k.dye t

/-- The text up to the first boundary of a colored span, and the painted text from there on. Spans
without a color are no boundaries. -/
def runs : List Stroke → Text × Text
  | [] => ([], [])
  | mark c _ :: ss => let p := runs ss; (c :: p.1, p.2)
  | enter none _ :: ss => runs ss
  | leave none _ :: ss => runs ss
  | enter (some k) _ :: ss => let p := runs ss; ([], inColor (some k) p.1 ++ p.2)
  | leave (some _) around :: ss => let p := runs ss; ([], inColor around p.1 ++ p.2)

end Stroke

namespace PaintMode

def output (m : PaintMode) (ss : List Stroke) : Text :=
  match m with
  | colored => (Stroke.runs ss).1 ++ (Stroke.runs ss).2
  | plain => ss.flatMap Stroke.shown
  | tagged => ss.flatMap Stroke.source

end PaintMode

def paint (p : Palette) (m : PaintMode) (t : Text) : Except UnknownColor Text :=
  m.output <$> Stroke.ofText p t

end Listing
