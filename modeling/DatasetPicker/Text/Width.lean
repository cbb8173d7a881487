import DatasetPicker.Text.Width.Tables

/-!
# Display columns

How many terminal columns a character and a text take. A character on its own has a
fixed number of columns. A text is measured from its end to its start, because what a
character adds can depend on the characters after it: emoji sequences take two columns
together, some letters merge with the next one, and a line break of two characters
counts once.
-/

namespace DatasetPicker.Text.Width

/-- Columns of a character by itself. Controls have none. -/
def charColumns (char : Char) : Nat :=
  let point := char.toNat
  if point < 0x20 then 0
  else if point < 0x7F then 1
  else if point < 0xA0 then 0
  else if point == 0x17D8 then 3
  else if zeroColumns.contains char then 0
  else if twoColumns.contains char then 2
  else 1

/-- Letters and signs that can merge with what stands before them. -/
inductive Joiner where
  | alef
  | lamed
  | ya
  | iYa
  | consonant
  | joinedConsonant
  | tone
  | orkhonI
  | coengLetter
  deriving DecidableEq, Repr

/-- What the text to the right of a character begins with, as far as it matters. -/
inductive Beginning where
  /-- Nothing that reaches back to the character before it. -/
  | ordinary
  | lineFeed
  | skinTone
  | flagLetter
  | flagLetters
  | emoji
  /-- A joiner that leads to an emoji. -/
  | joinedEmoji
  /-- An enclosing keycap, then a joiner that leads to an emoji. -/
  | joinedKeycap
  /-- The last letter of a flag, then a joiner that leads to an emoji. -/
  | joinedFlagLetter
  /-- An even number of flag letters, then a joiner that leads to an emoji. -/
  | joinedFlagsEven
  /-- An odd number of flag letters, then a joiner that leads to an emoji. -/
  | joinedFlagsOdd
  /-- The end of a tag, with its letters and digits so far, then a joined emoji. -/
  | joinedTag (letters digits : Nat)
  | vowelE
  | vowelAi
  /-- A letter that can merge; `joined` tells whether a joiner stands before it. -/
  | letter (joiner : Joiner) (joined : Bool)
  deriving DecidableEq, Repr

/-- The right context of a character: how the text begins, and whether a selector for
the emoji or the text style stands in front. -/
structure Context where
  beginning : Beginning := .ordinary
  emojiStyle : Bool := false
  textStyle : Bool := false
  deriving DecidableEq, Repr

/-- The context of a text that does not reach back. -/
def Context.ordinary : Context := {}

/-- The context of a text that begins in the given way. -/
def Context.of (beginning : Beginning) : Context := { beginning }

/-- A context that remembers what it begins with behind an emoji selector. -/
def Context.keepsEmojiStyle (context : Context) : Bool :=
  match context.beginning with
  | .joinedEmoji | .joinedKeycap | .letter _ _ => true
  | _ => false

/-- Characters without effect between the parts of a merged letter. -/
def isTransparent (char : Char) : Bool :=
  let point := char.toNat
  point == 0x34F || point == 0x17B4 || point == 0x17B5 ||
    (0x180B ≤ point && point ≤ 0x180D) || point == 0x180F || point == 0x200D ||
    (0xFE00 ≤ point && point ≤ 0xFE0F) || (0xE0100 ≤ point && point ≤ 0xE01EF)

/-- Marks that leave the joining of the letters around them alone. -/
def isTransparentMark (char : Char) : Bool :=
  charColumns char == 0 && 0xA0 < char.toNat && !opaqueMarks.contains char

/-- Emoji that a text selector shows as plain symbols. -/
def isTextBase (char : Char) : Bool :=
  emojis.contains char && emojiBases.contains char &&
    !(0x1F200 ≤ char.toNat && char.toNat ≤ 0x1F2FF)

/-- Letters of the joining group alef. -/
def isAlef (point : Nat) : Bool :=
  point == 0x622 || point == 0x623 || point == 0x625 || point == 0x627 ||
    (0x671 ≤ point && point ≤ 0x673) || point == 0x675 || point == 0x773 ||
    point == 0x774 || (0x870 ≤ point && point ≤ 0x882)

/-- Letters of the joining group lam. -/
def isLam (point : Nat) : Bool :=
  point == 0x644 || (0x6B5 ≤ point && point ≤ 0x6B8) || point == 0x76A ||
    point == 0x8A6 || point == 0x8C7

/-- Letters that lose their column under a stacking sign. -/
def isCoengLetter (point : Nat) : Bool :=
  (0x1780 ≤ point && point ≤ 0x1782) || (0x1784 ≤ point && point ≤ 0x1787) ||
    (0x1789 ≤ point && point ≤ 0x178C) || (0x178E ≤ point && point ≤ 0x1793) ||
    (0x1795 ≤ point && point ≤ 0x1798) || (0x179B ≤ point && point ≤ 0x179D) ||
    point == 0x17A0 || point == 0x17A2 || point == 0x17A7 ||
    (0x17AB ≤ point && point ≤ 0x17AC) || point == 0x17AF

/-- Consonants that merge over a consonant joiner. -/
def isTwinConsonant (point : Nat) : Bool :=
  (0x2D31 ≤ point && point ≤ 0x2D65) || point == 0x2D6F

/-- Letters of which two make a flag. -/
def isFlagLetter (point : Nat) : Bool := 0x1F1E6 ≤ point && point ≤ 0x1F1FF

/-- The role in which a character begins the text to its right. -/
def beginningOf (char : Char) : Beginning :=
  let point := char.toNat
  if point == 0x5DC then .letter .lamed false
  else if isAlef point then .letter .alef false
  else if isCoengLetter point then .letter .coengLetter true
  else if point == 0x1A10 then .letter .ya false
  else if isTwinConsonant point then .letter .consonant false
  else if 0xA4FC ≤ point && point ≤ 0xA4FD then .letter .tone true
  else if point == 0x10C03 then .letter .orkhonI false
  else if point == 0x16D67 then .vowelE
  else if point == 0x16D68 then .vowelAi
  else if isFlagLetter point then .flagLetter
  else if 0x1F3FB ≤ point && point ≤ 0x1F3FF then .skinTone
  else if emojis.contains char then .emoji
  else .ordinary

/-- What a character adds when nothing after it reaches back, and the context it makes. -/
def alone (char : Char) : Int × Context :=
  let point := char.toNat
  if point == 0xFE0E then (0, { textStyle := true })
  else if point == 0xFE0F then (0, { emojiStyle := true })
  else (charColumns char, .of (beginningOf char))

/-- What a character adds in front of a text that may reach back to it. -/
def merged (char : Char) (beginning : Beginning) : Option (Int × Context) :=
  let point := char.toNat
  match beginning with
  | .letter .alef _ =>
    if isLam point then some (0, .ordinary)
    else if isTransparentMark char then some (0, .of (.letter .alef false))
    else none
  | .letter .lamed true => if point == 0x5D0 then some (0, .ordinary) else none
  | .letter .coengLetter _ => if point == 0x17D2 then some (-1, .ordinary) else none
  | .letter .ya true =>
    if point == 0x1A17 then some (0, .of (.letter .iYa true)) else none
  | .letter .iYa _ => if point == 0x1A15 then some (0, .ordinary) else none
  | .letter .consonant joined =>
    if point == 0x2D7F then some (1, .of (.letter .joinedConsonant true))
    else if joined && isTwinConsonant point then some (0, .ordinary)
    else none
  | .letter .joinedConsonant _ =>
    if isTwinConsonant point then some (-1, .ordinary) else none
  | .letter .tone _ =>
    if 0xA4F8 ≤ point && point ≤ 0xA4FB then some (0, .ordinary) else none
  | .letter .orkhonI true => if point == 0x10C32 then some (0, .ordinary) else none
  | .skinTone =>
    if modifierBases.contains char then some (0, .of .emoji)
    else if point == 0x200D then some (0, .of .joinedEmoji)
    else none
  | .flagLetter => if isFlagLetter point then some (1, .of .flagLetters) else none
  | .flagLetters =>
    if isFlagLetter point then some (1, .of .flagLetters)
    else if point == 0x200D then some (0, .of .joinedEmoji)
    else none
  | .emoji => if point == 0x200D then some (0, .of .joinedEmoji) else none
  | .joinedEmoji =>
    if point == 0x20E3 then some (0, .of .joinedKeycap)
    else if isFlagLetter point then some (1, .of .joinedFlagLetter)
    else if 0x1F3FB ≤ point && point ≤ 0x1F3FF then some (0, .of .skinTone)
    else if point == 0xE007F then some (0, .of (.joinedTag 0 0))
    else if emojis.contains char then some (0, .of .emoji)
    else none
  | .joinedFlagLetter | .joinedFlagsOdd =>
    if isFlagLetter point then some (-1, .of .joinedFlagsEven)
    else if beginning == .joinedFlagsOdd && point == 0x200D then some (0, .of .joinedEmoji)
    else none
  | .joinedFlagsEven =>
    if isFlagLetter point then some (3, .of .joinedFlagsOdd)
    else if point == 0x200D then some (0, .of .joinedEmoji)
    else none
  | .joinedTag letters digits =>
    if 0xE0061 ≤ point && point ≤ 0xE007A && digits == 0 && letters < 6 then
      some (0, .of (.joinedTag (letters + 1) 0))
    else if 0xE0030 ≤ point && point ≤ 0xE0039 && letters < 5 && digits < 3 then
      some (0, .of (.joinedTag letters (digits + 1)))
    else if point == 0x1F3F4 && (digits == 3 || (digits == 0 && 3 ≤ letters)) then
      some (0, .of .emoji)
    else none
  | .vowelE =>
    if point == 0x16D63 || point == 0x16D69 then some (0, .ordinary)
    else if point == 0x16D67 then some (0, .of .vowelE)
    else if point == 0x16D68 then some (1, .of .vowelE)
    else none
  | .vowelAi => if point == 0x16D63 then some (0, .ordinary) else none
  | _ => none

/-- What a visible character beyond the first 161 adds, behind any style selector. -/
def addVisible (char : Char) (context : Context) : Int × Context :=
  let point := char.toNat
  if context == .ordinary then alone char
  else if point == 0xFE0F then
    (0, { beginning := if context.keepsEmojiStyle then context.beginning else .ordinary
          emojiStyle := true })
  else if point == 0xFE0E then
    (0, { beginning := match context.beginning with
            | .letter joiner joined => .letter joiner joined
            | _ => .ordinary
          textStyle := true })
  else if context.textStyle && isTextBase char then (1, .ordinary)
  else
    match context.beginning with
    | .letter joiner joined =>
      if joiner != .alef && point == 0x200D then
        (0, .of (.letter joiner true))
      else if joiner != .alef && isTransparent char then
        (0, .of (.letter joiner joined))
      else (merged char context.beginning).getD (alone char)
    | beginning => (merged char beginning).getD (alone char)

/-- What a character adds to the columns of the text it stands in front of. -/
def add (char : Char) (context : Context) : Int × Context :=
  if context.emojiStyle && emojiBases.contains char then
    let joined := match context.beginning with
      | .joinedEmoji | .joinedKeycap => true
      | _ => false
    (if joined then 0 else 2, .of .emoji)
  else
    let context := { context with emojiStyle := false }
    let point := char.toNat
    if point ≤ 0xA0 then
      if char = '\n' then (1, .of .lineFeed)
      else if char = '\r' ∧ context.beginning = .lineFeed then (0, .ordinary)
      else (1, .ordinary)
    else addVisible char context

/-- The columns of a text and the context it makes for a character before it. -/
def measure : List Char → Int × Context
  | [] => (0, .ordinary)
  | char :: rest =>
    let (columns, context) := measure rest
    let (added, context) := add char context
    (columns + added, context)

end Width

/-- Display columns of a character by itself. -/
abbrev charColumns (char : Char) : Nat := Width.charColumns char

/-- Display columns of a text. -/
def columns (text : String) : Nat := (Width.measure text.toList).1.toNat

end DatasetPicker.Text
