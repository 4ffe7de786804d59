import FleetWatch.Text.CharTable
import FleetWatch.Text.Width.Table

/-! # Widths

How many columns of a screen a text takes. Most characters take as many wherever they stand, but
some are drawn as one with what stands behind them: emoji with their selectors, modifiers and
joiners, and letters that form ligatures. So a text is measured from its end, and what has been
measured last tells how wide the character in front of it is.
-/

namespace FleetWatch.Text

/-! ## Properties of characters -/

/-- Characters that take no column, or two, or three. -/
def charWidths : CharTable Nat := .ofText CharTable.hex charWidthText

/-- How many columns a character takes by itself. -/
def charWidth (c : Char) : Nat :=
  if c.toNat < 0xA0 then 1 else (charWidths.value? c).getD 1

/-- What a character can do as an emoji. -/
structure EmojiTraits where
  /-- It is shown as an emoji unless it is told otherwise. -/
  isShown : Bool := false
  /-- A selector behind it tells whether it is shown as one. -/
  isSelectable : Bool := false
  /-- A modifier behind it changes its skin tone. -/
  isModifiable : Bool := false
  deriving Repr, DecidableEq, Inhabited

/-- The traits that letters of the table stand for. -/
def EmojiTraits.ofLetters (letters : List Char) : EmojiTraits :=
  ⟨letters.contains 'P', letters.contains 'S', letters.contains 'M'⟩

/-- The traits of characters that have any. -/
def emojiTable : CharTable EmojiTraits := .ofText EmojiTraits.ofLetters emojiTraitText

def emojiTraits (c : Char) : EmojiTraits := (emojiTable.value? c).getD {}

/-- Whether a selector can make text of a character that is shown as an emoji; for enclosed
ideographs it cannot. -/
def isTextSelectable (c : Char) : Bool :=
  (emojiTraits c).isSelectable && (emojiTraits c).isShown &&
    !(0x1F200 ≤ c.toNat && c.toNat ≤ 0x1F2FF)

/-- Characters without width that part letters of Arabic. -/
def partingMarks : CharTable Unit := .ofText (fun _ => ()) partingText

/-- Whether letters of Arabic on both sides of a character still join. -/
def joinsThrough (c : Char) : Bool := charWidth c = 0 && !partingMarks.contains c

/-- Whether a character is a mark that is never seen, which no ligature minds. -/
def isUnseenMark (c : Char) : Bool :=
  let n := c.toNat
  n == 0x34F || n == 0x17B4 || n == 0x17B5 || (0x180B ≤ n && n ≤ 0x180D) || n == 0x180F ||
    (0xFE00 ≤ n && n ≤ 0xFE0F) || (0xE0100 ≤ n && n ≤ 0xE01EF)

/-- Whether a letter of Arabic is an alef, which joins a lam in front of it. -/
def isAlef (c : Char) : Bool :=
  let n := c.toNat
  n == 0x622 || n == 0x623 || n == 0x625 || n == 0x627 || (0x671 ≤ n && n ≤ 0x673) || n == 0x675 ||
    n == 0x773 || n == 0x774 || (0x870 ≤ n && n ≤ 0x882)

def isLam (c : Char) : Bool :=
  let n := c.toNat
  n == 0x644 || (0x6B5 ≤ n && n ≤ 0x6B8) || n == 0x76A || n == 0x8A6 || n == 0x8C7

/-- Whether a letter of Khmer goes below the one in front of it when a coeng stands between. -/
def isSubscribable (c : Char) : Bool :=
  let n := c.toNat
  (0x1780 ≤ n && n ≤ 0x1782) || (0x1784 ≤ n && n ≤ 0x1787) || (0x1789 ≤ n && n ≤ 0x178C) ||
    (0x178E ≤ n && n ≤ 0x1793) || (0x1795 ≤ n && n ≤ 0x1798) || (0x179B ≤ n && n ≤ 0x179D) ||
    n == 0x17A0 || n == 0x17A2 || n == 0x17A7 || n == 0x17AB || n == 0x17AC || n == 0x17AF

/-- Whether a letter is a consonant of Tifinagh, two of which can be written as one. -/
def isTifinagh (c : Char) : Bool :=
  let n := c.toNat
  (0x2D31 ≤ n && n ≤ 0x2D65) || n == 0x2D6F

/-- Whether a character is a regional indicator, two of which are a flag. -/
def isRegional (c : Char) : Bool := 0x1F1E6 ≤ c.toNat && c.toNat ≤ 0x1F1FF

/-- Whether a character changes the skin tone of the one in front of it. -/
def isModifier (c : Char) : Bool := 0x1F3FB ≤ c.toNat && c.toNat ≤ 0x1F3FF

/-- Whether a character is a small letter of the kind that flags are tagged with. -/
def isTagLetter (c : Char) : Bool := 0xE0061 ≤ c.toNat && c.toNat ≤ 0xE007A

/-- Whether a character is a digit of the kind that flags are tagged with. -/
def isTagDigit (c : Char) : Bool := 0xE0030 ≤ c.toNat && c.toNat ≤ 0xE0039

/-! ## What stands behind a character -/

/-- The last part of a ligature. -/
inductive LigatureEnd where
  /-- The lamed of Hebrew, joined to an alef. -/
  | lamed
  /-- The ya of Buginese. -/
  | ya
  /-- The ya of Buginese with a joiner and the vowel sign in front of it. -/
  | vowelAndYa
  /-- A consonant of Tifinagh. -/
  | tifinagh
  /-- A consonant of Tifinagh with the consonant joiner in front of it. -/
  | joinedTifinagh
  /-- The second letter of a tone of Lisu. -/
  | tone
  /-- The letter i of Old Turkic. -/
  | turkic
  /-- A letter of Khmer that can go below another one. -/
  | subscript
  deriving Repr, DecidableEq

/-- Tags that end a flag, from the last one on. -/
inductive Tags.Ending where
  /-- Only the mark of the end. -/
  | mark
  /-- So many letters. -/
  | letters (count : Nat)
  /-- So many digits, in front of letters or not. -/
  | digits (count : Nat)
  deriving Repr, DecidableEq

/-- What stands right behind a character, as far as it matters for the character's width. -/
inductive Follower where
  /-- Nothing that matters. -/
  | plain
  | lineFeed
  /-- A modifier of skin tones. -/
  | modifier
  /-- One regional indicator. -/
  | regional
  /-- More than one of them. -/
  | regionals
  /-- An emoji. -/
  | emoji
  /-- A joiner and an emoji. -/
  | joinedEmoji
  /-- A keycap joined to an emoji. -/
  | joinedKeycap
  /-- One regional indicator joined to an emoji. -/
  | joinedRegional
  /-- An odd number of them, but more than one. -/
  | joinedOddRegionals
  /-- An even number of them. -/
  | joinedEvenRegionals
  /-- Tags joined to an emoji. -/
  | joinedTags (ending : Tags.Ending)
  /-- An alef. -/
  | alef
  /-- The end of a ligature, with a joiner in front of it or not. -/
  | ligature (ending : LigatureEnd) (isJoined : Bool)
  deriving Repr, DecidableEq

/-- A selector between a character and what stands behind it. -/
inductive Selector where
  /-- The character is to be shown as an emoji. -/
  | emoji
  /-- The character is to be shown as text. -/
  | text
  deriving Repr, DecidableEq

/-- What a character is measured by: what stands behind it, and the selector between them. -/
structure Surroundings where
  follower : Follower := .plain
  selector : Option Selector := none
  deriving Repr, DecidableEq

namespace Surroundings

/-- Nothing that matters stands behind. -/
def none : Surroundings := {}

/-- Only what follows matters. -/
def ofFollower (follower : Follower) : Surroundings := { follower := follower }

end Surroundings

namespace Follower

/-- Whether this is a part of a ligature of letters. -/
def isLetter : Follower → Bool
  | alef | ligature _ _ => true
  | _ => false

/-- What is left of it behind a selector for emoji. -/
def behindEmojiSelector (f : Follower) : Follower :=
  match f with
  | joinedEmoji | joinedKeycap | alef | ligature _ _ => f
  | _ => plain

/-- What is left of it behind a selector for text. -/
def behindTextSelector (f : Follower) : Follower := if f.isLetter then f else plain

/-- Whether an emoji that it follows is joined to it. -/
def isJoinedEmoji : Follower → Bool
  | joinedEmoji | joinedKeycap => true
  | _ => false

/-- What a character does that joins what follows it: the columns that the text gains by it, and
what stands behind the next character. Most characters join nothing. -/
def join? (c : Char) : Follower → Option (Int × Follower)
  | alef => if isLam c then some (0, plain) else if joinsThrough c then some (0, alef) else .none
  | ligature .lamed true => if c = '\u05D0' then some (0, plain) else .none
  | ligature .subscript _ => if c = '\u17D2' then some (-1, plain) else .none
  | ligature .ya true => if c = '\u1A17' then some (0, ligature .vowelAndYa true) else .none
  | ligature .vowelAndYa _ => if c = '\u1A15' then some (0, plain) else .none
  | ligature .tifinagh isJoined =>
    if c = '\u2D7F' then some (1, ligature .joinedTifinagh true)
    else if isJoined && isTifinagh c then some (0, plain)
    else .none
  | ligature .joinedTifinagh _ => if isTifinagh c then some (-1, plain) else .none
  | ligature .tone _ => if 0xA4F8 ≤ c.toNat && c.toNat ≤ 0xA4FB then some (0, plain) else .none
  | ligature .turkic true => if c.toNat = 0x10C32 then some (0, plain) else .none
  | ligature _ _ => .none
  | modifier =>
    if (emojiTraits c).isModifiable then some (0, emoji)
    else if c = '\u200D' then some (0, joinedEmoji)
    else .none
  | regional => if isRegional c then some (1, regionals) else .none
  | regionals =>
    if isRegional c then some (1, regionals)
    else if c = '\u200D' then some (0, joinedEmoji)
    else .none
  | emoji => if c = '\u200D' then some (0, joinedEmoji) else .none
  | joinedEmoji =>
    if c = '\u20E3' then some (0, joinedKeycap)
    else if isRegional c then some (1, joinedRegional)
    else if isModifier c then some (0, modifier)
    else if c.toNat = 0xE007F then some (0, joinedTags .mark)
    else if (emojiTraits c).isShown then some (0, emoji)
    else .none
  | joinedRegional => if isRegional c then some (-1, joinedEvenRegionals) else .none
  | joinedOddRegionals =>
    if isRegional c then some (-1, joinedEvenRegionals)
    else if c = '\u200D' then some (0, joinedEmoji)
    else .none
  | joinedEvenRegionals =>
    if isRegional c then some (3, joinedOddRegionals)
    else if c = '\u200D' then some (0, joinedEmoji)
    else .none
  | joinedTags ending =>
    match ending with
    | .mark =>
      if isTagLetter c then some (0, joinedTags (.letters 1))
      else if isTagDigit c then some (0, joinedTags (.digits 1))
      else .none
    | .letters count =>
      if isTagLetter c && count < 6 then some (0, joinedTags (.letters (count + 1)))
      else if isTagDigit c && count < 5 then some (0, joinedTags (.digits 1))
      else if c.toNat = 0x1F3F4 && 3 ≤ count then some (0, emoji)
      else .none
    | .digits count =>
      if isTagDigit c && count < 3 then some (0, joinedTags (.digits (count + 1)))
      else if c.toNat = 0x1F3F4 && count = 3 then some (0, emoji)
      else .none
  | plain | lineFeed | joinedKeycap => .none

/-- What a character is to the one in front of it. -/
def ofChar (c : Char) : Follower :=
  if c = '\n' then lineFeed
  else if c.toNat ≤ 0xA0 then plain
  else if c = '\u05DC' then ligature .lamed false
  else if isAlef c then alef
  else if isSubscribable c then ligature .subscript true
  else if c = '\u1A10' then ligature .ya false
  else if isTifinagh c then ligature .tifinagh false
  else if c = '\uA4FC' || c = '\uA4FD' then ligature .tone true
  else if c.toNat = 0x10C03 then ligature .turkic false
  else if isRegional c then regional
  else if isModifier c then modifier
  else if (emojiTraits c).isShown then emoji
  else plain

end Follower

namespace Surroundings

/-- A character that takes as many columns as it does by itself. -/
def alone (c : Char) : Int × Surroundings := (charWidth c, .ofFollower (.ofChar c))

/-- A character behind which nothing selects how it is shown. -/
def unselected (c : Char) (follower : Follower) : Int × Surroundings :=
  if c.toNat ≤ 0xA0 then
    if c = '\r' && follower = .lineFeed then (0, none) else alone c
  else if c = '\uFE0F' then (0, ⟨follower.behindEmojiSelector, some .emoji⟩)
  else if c = '\uFE0E' then (0, ⟨follower.behindTextSelector, some .text⟩)
  else match follower with
    | .ligature ending isJoined =>
      if c = '\u200D' then (0, .ofFollower (.ligature ending true))
      else if isUnseenMark c then (0, .ofFollower follower)
      else match (Follower.ligature ending isJoined).join? c with
        | some (columns, next) => (columns, .ofFollower next)
        | .none => alone c
    | follower =>
      match follower.join? c with
      | some (columns, next) => (columns, .ofFollower next)
      | .none => alone c

/-- One more character in front: the columns that the text gains by it, and what stands behind the
next character. -/
def before (c : Char) (s : Surroundings) : Int × Surroundings :=
  match s.selector with
  | some .emoji =>
    if (emojiTraits c).isSelectable then
      (if s.follower.isJoinedEmoji then 0 else 2, .ofFollower .emoji)
    else unselected c s.follower
  | some .text =>
    if c.toNat ≤ 0xA0 then unselected c s.follower
    else if c = '\uFE0F' then (0, ⟨s.follower.behindEmojiSelector, some .emoji⟩)
    else if c = '\uFE0E' then (0, s)
    else if isTextSelectable c then (1, none)
    else unselected c s.follower
  | .none => unselected c s.follower

end Surroundings

/-! ## The width of a text -/

/-- The columns that a text takes, and what it is to a character in front of it. -/
def measure : List Char → Int × Surroundings
  | [] => (0, .none)
  | c :: rest =>
    let (columns, surroundings) := measure rest
    let (more, next) := surroundings.before c
    (columns + more, next)

def width (text : List Char) : Nat := (measure text).1.toNat

end FleetWatch.Text
