import Listing.Text.Emoji

namespace Listing.Text

def joiner : Char := '\u200d'

/-- What a sequence of emoji starts with, as far as a character before it may belong to it. A flag
is a pair of regional indicators. Behind a joiner, `oneFlag` is a single indicator, and the flags
after it are told apart by whether their indicators come in pairs. -/
inductive EmojiSequence
  | emoji
  | modifier
  | flag
  | flags
  | joined
  | joinedKeycap
  | oneFlag
  | evenFlags
  | oddFlags
  | tag (letters digits : Nat)
  deriving DecidableEq

namespace EmojiSequence

def allowsJoiner : EmojiSequence → Bool
  | .emoji | .modifier | .flags | .evenFlags | .oddFlags => true
  | _ => false

/-- Adds a letter or a digit to a tag, from its end. A tag ends with up to six letters or with three
digits, which follow at most four letters. -/
def tagBefore? (letters digits : Nat) (c : Char) : Option EmojiSequence :=
  if isTagLetter c then
    if digits = 0 ∧ letters < 6 then some (.tag (letters + 1) 0) else none
  else if isTagDigit c then
    if letters ≤ 4 ∧ digits < 3 then some (.tag letters (digits + 1)) else none
  else if c.toNat = 0x1F3F4 then
    if digits = 3 ∨ (digits = 0 ∧ 3 ≤ letters) then some .emoji else none
  else none

/-- What a character adds that belongs to the sequence, and what the longer sequence starts with. -/
def before? (s : EmojiSequence) (c : Char) : Option (Int × EmojiSequence) :=
  if s.allowsJoiner ∧ c = joiner then some (0, .joined)
  else
    match s with
    | .modifier => if takesModifier c then some (0, .emoji) else none
    | .flag | .flags => if isRegional c then some (1, .flags) else none
    | .joined =>
      if c = '\u20e3' then some (0, .joinedKeycap)
      else if isRegional c then some (1, .oneFlag)
      else if isModifier c then some (0, .modifier)
      else if c.toNat = 0xE007F then some (0, .tag 0 0)
      else if isEmoji c then some (0, .emoji)
      else none
    | .oneFlag | .oddFlags => if isRegional c then some (-1, .evenFlags) else none
    | .evenFlags => if isRegional c then some (3, .oddFlags) else none
    | .tag letters digits => (tagBefore? letters digits c).map (0, ·)
    | .emoji | .joinedKeycap => none

end EmojiSequence

end Listing.Text
