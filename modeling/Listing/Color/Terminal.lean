import Listing.Text

namespace Listing

structure Rgb where
  red : UInt8
  green : UInt8
  blue : UInt8
  deriving DecidableEq

namespace Rgb

def channel (high low : Nat) : UInt8 := UInt8.ofNat (16 * high + low)

/-- Reads three or six hexadecimal digits. Three digits stand for six, each written twice. -/
def ofDigits? (t : Text) : Option Rgb :=
  match t.mapM Text.hexDigit? with
  | some [r, g, b] => some ⟨channel r r, channel g g, channel b b⟩
  | some [r, r', g, g', b, b'] => some ⟨channel r r', channel g g', channel b b'⟩
  | _ => none

def ofHex? (t : Text) : Option Rgb :=
  match Text.trim t with
  | '#' :: digits => ofDigits? digits
  | digits => ofDigits? digits

def channelDistance (a b : UInt8) : Nat := (a.toNat - b.toNat) + (b.toNat - a.toNat)

def distance (c d : Rgb) : Nat :=
  channelDistance c.red d.red + channelDistance c.green d.green + channelDistance c.blue d.blue

end Rgb

/-- Eight normal and eight bright colors. The names with `dark` are the normal colors, `gray` is the
normal white and `darkGray` the bright black. -/
inductive TerminalColor
  | black | darkBlue | darkGreen | darkCyan | darkRed | darkMagenta | darkYellow | gray
  | darkGray | blue | green | cyan | red | magenta | yellow | white
  deriving DecidableEq

namespace TerminalColor

def all : List TerminalColor :=
  [black, darkBlue, darkGreen, darkCyan, darkRed, darkMagenta, darkYellow, gray,
   darkGray, blue, green, cyan, red, magenta, yellow, white]

theorem mem_all (k : TerminalColor) : k ∈ all := by cases k <;> decide

def name : TerminalColor → Text
  | black => "Black"
  | darkBlue => "DarkBlue"
  | darkGreen => "DarkGreen"
  | darkCyan => "DarkCyan"
  | darkRed => "DarkRed"
  | darkMagenta => "DarkMagenta"
  | darkYellow => "DarkYellow"
  | gray => "Gray"
  | darkGray => "DarkGray"
  | blue => "Blue"
  | green => "Green"
  | cyan => "Cyan"
  | red => "Red"
  | magenta => "Magenta"
  | yellow => "Yellow"
  | white => "White"

def ofName? (t : Text) : Option TerminalColor := all.find? fun k => Text.agrees k.name t

def rgb : TerminalColor → Rgb
  | black => ⟨0, 0, 0⟩
  | darkBlue => ⟨0, 0, 139⟩
  | darkGreen => ⟨0, 100, 0⟩
  | darkCyan => ⟨0, 139, 139⟩
  | darkRed => ⟨139, 0, 0⟩
  | darkMagenta => ⟨139, 0, 139⟩
  | darkYellow => ⟨128, 128, 0⟩
  | gray => ⟨128, 128, 128⟩
  | darkGray => ⟨169, 169, 169⟩
  | blue => ⟨0, 0, 255⟩
  | green => ⟨0, 128, 0⟩
  | cyan => ⟨0, 255, 255⟩
  | red => ⟨255, 0, 0⟩
  | magenta => ⟨255, 0, 255⟩
  | yellow => ⟨255, 255, 0⟩
  | white => ⟨255, 255, 255⟩

def index : TerminalColor → Nat
  | black => 0
  | darkRed => 1
  | darkGreen => 2
  | darkYellow => 3
  | darkBlue => 4
  | darkMagenta => 5
  | darkCyan => 6
  | gray => 7
  | darkGray => 8
  | red => 9
  | green => 10
  | yellow => 11
  | blue => 12
  | magenta => 13
  | cyan => 14
  | white => 15

def start (k : TerminalColor) : Text :=
  if k.index < 8 then '\x1b' :: '[' :: '3' :: Text.decimal k.index ++ ['m']
  else ("\x1b[38;5;" : Text) ++ Text.decimal k.index ++ ['m']

def reset : Text := "\x1b[0m"

def dye (k : TerminalColor) (t : Text) : Text := k.start ++ t ++ reset

/-- Whether a color tells labels apart; black, white and the grays do not. -/
def isVivid : TerminalColor → Bool
  | black | gray | darkGray | white => false
  | _ => true

/-- The vivid color nearest to a value. Of several equally near ones it is the first. -/
def nearest (c : Rgb) : TerminalColor :=
  (all.filter isVivid).foldl
    (fun best k => if k.rgb.distance c < best.rgb.distance c then k else best) darkBlue

end TerminalColor

abbrev Matcher := Rgb → TerminalColor

end Listing
