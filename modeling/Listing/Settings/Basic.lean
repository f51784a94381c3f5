import Listing.Color.Palette
import Listing.Settings.Format
import Listing.Settings.Overrides

namespace Listing

structure Settings where
  formats : Formats
  colors : Palette
  deriving DecidableEq

inductive SettingsError
  | unreadable
  | unparsable
  | colors (error : AliasError)
  | format (error : FormatError)
  deriving DecidableEq

def SettingsError.message : SettingsError → Text
  | .unreadable => "failed to read settings"
  | .unparsable => "failed to parse settings"
  | .colors e => ("invalid color settings: " : Text) ++ e.message
  | .format e => e.message

namespace Settings

def standardColors : List (Text × Text) :=
  [("Example", "Yellow"), ("Issue_Closed", "DarkRed"), ("Issue_Open", "DarkYellow"),
   ("Issue_User_Self", "Cyan"), ("Issue_User", "DarkCyan"), ("Issue_Par", "DarkYellow"),
   ("Config_Key", "DarkCyan")]

def standard : Settings := ⟨.standard, .ofList standardColors⟩

instance : Inhabited Settings := ⟨standard⟩

def format (s : Settings) (kind : ListingKind) : Text := s.formats.get kind

def check (s : Settings) : Except SettingsError Unit := do
  s.colors.check.mapError .colors
  ListingKind.all.forM fun kind => (checkTemplate kind (s.format kind)).mapError .format

def override (f : Formats) (kind : ListingKind) : Option Text → Formats
  | none => f
  | some format => f.set kind (readNewlines format)

def ofOverrides (o : Overrides) : Except SettingsError Settings := do
  let formats := override (override (override .standard .issues o.issues) .labels o.labels)
    .config o.config
  let s : Settings := ⟨formats, standard.colors.overlay (.ofList o.colors)⟩
  s.check
  return s

def ofText (t : Text) : Except SettingsError Settings :=
  match Overrides.read t with
  | none => .error .unparsable
  | some o => ofOverrides o

def ofBytes (bytes : Option ByteArray) : Except SettingsError Settings :=
  match bytes.bind String.fromUTF8? with
  | none => .error .unreadable
  | some s => ofText s.toList

def setFormat (s : Settings) (kind : ListingKind) (format : Text) :
    Except SettingsError Settings := do
  let format := readNewlines format
  (checkTemplate kind format).mapError .format
  return { s with formats := s.formats.set kind format }

def setColor (s : Settings) (name target : Text) : Except SettingsError Settings := do
  let colors := s.colors.insert name target
  colors.check.mapError .colors
  return { s with colors }

end Settings

end Listing
