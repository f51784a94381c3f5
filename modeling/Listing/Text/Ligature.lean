import Listing.Text.Columns

namespace Listing.Text

inductive Ligature
  | alef
  | lamed
  | ya
  | yaVowel
  | tifinagh
  | tifinaghJoiner
  | lisu
  | turkic
  | coeng
  | kiratE
  | kiratAi
  deriving DecidableEq

def alefRanges : List (Nat × Nat) :=
  [(0x622, 0x623), (0x625, 0x625), (0x627, 0x627), (0x671, 0x673), (0x675, 0x675), (0x773, 0x774),
   (0x870, 0x882)]

def lamRanges : List (Nat × Nat) :=
  [(0x644, 0x644), (0x6B5, 0x6B8), (0x76A, 0x76A), (0x8A6, 0x8A6), (0x8C7, 0x8C7)]

def coengRanges : List (Nat × Nat) :=
  [(0x1780, 0x1782), (0x1784, 0x1787), (0x1789, 0x178C), (0x178E, 0x1793), (0x1795, 0x1798),
   (0x179B, 0x179D), (0x17A0, 0x17A0), (0x17A2, 0x17A2), (0x17A7, 0x17A7), (0x17AB, 0x17AC),
   (0x17AF, 0x17AF)]

def tifinaghRanges : List (Nat × Nat) := [(0x2D31, 0x2D65), (0x2D6F, 0x2D6F)]

def separateRanges : List (Nat × Nat) :=
  [(0x605, 0x605), (0x890, 0x891), (0x8E2, 0x8E2), (0x9BE, 0x9BE), (0x9D7, 0x9D7), (0xB3E, 0xB3E),
   (0xB57, 0xB57), (0xBBE, 0xBBE), (0xBD7, 0xBD7), (0xCC0, 0xCC0), (0xCC2, 0xCC2), (0xCC7, 0xCC8),
   (0xCCA, 0xCCB), (0xCD5, 0xCD6), (0xD3E, 0xD3E), (0xD4E, 0xD4E), (0xD57, 0xD57), (0xDCF, 0xDCF),
   (0xDDF, 0xDDF), (0x1160, 0x11FF), (0x1715, 0x1715), (0x1734, 0x1734), (0x180E, 0x180E),
   (0x1B35, 0x1B35), (0x1B3B, 0x1B3B), (0x1B3D, 0x1B3D), (0x1B43, 0x1B44), (0x1BAA, 0x1BAA),
   (0x1BF2, 0x1BF3), (0x200C, 0x200D), (0x2065, 0x2069), (0x302E, 0x302F), (0x3164, 0x3164),
   (0xA8FA, 0xA8FA), (0xA953, 0xA953), (0xA9C0, 0xA9C0), (0xD7B0, 0xD7C6), (0xD7CB, 0xD7FB),
   (0xFFA0, 0xFFA0), (0xFFF0, 0xFFF8), (0x111C0, 0x111C0), (0x111C2, 0x111C3), (0x11235, 0x11235),
   (0x1133E, 0x1133E), (0x1134D, 0x1134D), (0x11357, 0x11357), (0x113B8, 0x113B8),
   (0x113C2, 0x113C2), (0x113C5, 0x113C5), (0x113C7, 0x113C9), (0x113CF, 0x113CF),
   (0x113D1, 0x113D1), (0x114B0, 0x114B0), (0x114BD, 0x114BD), (0x115AF, 0x115AF),
   (0x116B6, 0x116B6), (0x11930, 0x11930), (0x1193D, 0x1193D), (0x1193F, 0x1193F),
   (0x11941, 0x11941), (0x11A84, 0x11A89), (0x11D46, 0x11D46), (0x11F02, 0x11F02),
   (0x11F41, 0x11F41), (0x16FF0, 0x16FF1), (0x1D165, 0x1D166), (0x1D16D, 0x1D172),
   (0xE0000, 0xE0000), (0xE0002, 0xE001F), (0xE0080, 0xE00FF), (0xE01F0, 0xE0FFF)]

def isTransparent (c : Char) : Bool := isZeroWidth c && !inRanges separateRanges c

def markRanges : List (Nat × Nat) :=
  [(0x34F, 0x34F), (0x17B4, 0x17B5), (0x180B, 0x180D), (0x180F, 0x180F), (0xFE00, 0xFE0F),
   (0xE0100, 0xE01EF)]

def isIgnorableMark (c : Char) : Bool := inRanges markRanges c

namespace Ligature

def ofChar? (c : Char) : Option Ligature :=
  if inRanges alefRanges c then some .alef
  else if inRanges coengRanges c then some .coeng
  else if inRanges tifinaghRanges c then some .tifinagh
  else if inRanges [(0xA4FC, 0xA4FD)] c then some .lisu
  else if c = '\u05dc' then some .lamed
  else if c = '\u1a10' then some .ya
  else if c.toNat = 0x10C03 then some .turkic
  else if c.toNat = 0x16D67 then some .kiratE
  else if c.toNat = 0x16D68 then some .kiratAi
  else none

def allowsMarks : Ligature → Bool
  | .alef | .kiratE | .kiratAi => false
  | _ => true

def outlivesSelector : Ligature → Bool
  | .kiratE | .kiratAi => false
  | _ => true

/-- What a character adds that is drawn as one with the letter, and the letter that the two stand
for from then on. Some pairs need a joiner between them. -/
def before? (l : Ligature) (joined : Bool) (c : Char) : Option (Int × Option Ligature) :=
  match l with
  | .alef =>
    if inRanges lamRanges c then some (0, none)
    else if isTransparent c then some (0, some .alef)
    else none
  | .lamed => if joined ∧ c = '\u05d0' then some (0, none) else none
  | .ya => if joined ∧ c = '\u1a17' then some (0, some .yaVowel) else none
  | .yaVowel => if c = '\u1a15' then some (0, none) else none
  | .tifinagh =>
    if joined then if inRanges tifinaghRanges c then some (0, none) else none
    else if c = '\u2d7f' then some (1, some .tifinaghJoiner)
    else none
  | .tifinaghJoiner => if inRanges tifinaghRanges c then some (-1, none) else none
  | .lisu => if inRanges [(0xA4F8, 0xA4FB)] c then some (0, none) else none
  | .turkic => if joined ∧ c.toNat = 0x10C32 then some (0, none) else none
  | .coeng => if c = '\u17d2' then some (-1, none) else none
  | .kiratE =>
    match c.toNat with
    | 0x16D63 | 0x16D69 => some (0, none)
    | 0x16D67 => some (0, some .kiratAi)
    | 0x16D68 => some (1, some .kiratE)
    | _ => none
  | .kiratAi => if c.toNat = 0x16D63 then some (0, none) else none

end Ligature

end Listing.Text
