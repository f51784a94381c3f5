import Listing.Paint.Sink
import Listing.Settings.Basic
import Listing.Vocabulary

namespace Listing

variable {R I : Type}

structure Printer where
  settings : Settings
  mode : PaintMode
  matcher : Matcher := TerminalColor.nearest
  viewer : Option Text := none

inductive ListingError
  | format (error : FormatError)
  | unresolved (error : ResolveError)
  | tooDeep
  | paint (error : OutputError)
  deriving DecidableEq

namespace ListingError

def ofRender (kind : ListingKind) : RenderError → ListingError
  | .malformed e => .format ⟨kind, e⟩
  | .unresolved e => .unresolved e
  | .tooDeep => .tooDeep

def message : ListingError → Text
  | .format e => e.message
  | .unresolved e => e.message
  | .tooDeep => RenderError.tooDeep.message
  | .paint e => e.message

end ListingError

/-- Renders a template with room for all calls that fit into it: each one that renders an argument
renders a shorter text. -/
def Vocabulary.renderWhole (v : Vocabulary (Scope R I)) (template : Text) (record : R) :
    Except RenderError Text :=
  v.render (template.length + 1) template (.ofRecord record)

namespace Printer

/-- The template of a listing. A format given for the listing alone takes the place of the one in
the settings. -/
def templateFor (p : Printer) (kind : ListingKind) : Option Text → Except ListingError Text
  | none => .ok (p.settings.format kind)
  | some format => do
    let format := readNewlines format
    (checkTemplate kind format).mapError .format
    return format

def line (p : Printer) (kind : ListingKind) (v : Vocabulary (Scope R I)) (template : Text)
    (record : R) : Except ListingError Text := do
  let tagged ← (v.renderWhole template record).mapError (.ofRender kind)
  (paint p.settings.colors p.mode tagged).mapError (.paint ∘ .unknownColor)

def lines (p : Printer) (kind : ListingKind) (v : Vocabulary (Scope R I))
    (format : Option Text) (records : List R) : Except ListingError (List Text) := do
  records.mapM (p.line kind v (← p.templateFor kind format))

def listIssues (p : Printer) (issues : List Issue) (format : Option Text) :
    Except ListingError (List Text) :=
  p.lines .issues (Issue.vocabulary (Issue.columns issues p.viewer) p.matcher) format issues

def listLabels (p : Printer) (labels : List Label) (format : Option Text) :
    Except ListingError (List Text) :=
  p.lines .labels (Label.vocabulary (Label.columns labels) p.matcher) format labels

def listConfig (p : Printer) (entries : List ConfigEntry) (format : Option Text) :
    Except ListingError (List Text) :=
  p.lines .config ConfigEntry.vocabulary format entries

def write (s : Sink) : Except ListingError (List Text) → Sink × Except ListingError Unit
  | .error e => (s, .error e)
  | .ok lines =>
    match s.putLines lines with
    | (s, true) => (s, .ok ())
    | (s, false) => (s, .error (.paint .full))

def printIssues (p : Printer) (s : Sink) (issues : List Issue) (format : Option Text) :
    Sink × Except ListingError Unit :=
  write s (p.listIssues issues format)

def printLabels (p : Printer) (s : Sink) (labels : List Label) (format : Option Text) :
    Sink × Except ListingError Unit :=
  write s (p.listLabels labels format)

def printConfig (p : Printer) (s : Sink) (entries : List ConfigEntry) (format : Option Text) :
    Sink × Except ListingError Unit :=
  write s (p.listConfig entries format)

end Printer

end Listing
