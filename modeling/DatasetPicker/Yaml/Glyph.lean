/-!
# Placed characters

A settings file is read as characters that know where they stand, since lines and columns
carry meaning in YAML. A line break, however it is written, is one character.
-/

namespace DatasetPicker.Yaml

/-- A character and its place. -/
structure Glyph where
  char : Char
  line : Nat
  column : Nat
  deriving DecidableEq, Repr

/-- The mark that may open a line. It takes a column of its own. -/
def byteOrderMark : Char := '\ufeff'

/-- The characters that may stand in a file at all. -/
def isAdmitted (char : Char) : Bool :=
  let point := char.toNat
  point == 0x09 || point == 0x0A || point == 0x0D || (0x20 ≤ point && point ≤ 0x7E) ||
    point == 0x85 || (0xA0 ≤ point && point ≤ 0xD7FF) ||
    (0xE000 ≤ point && point ≤ 0xFFFD) || 0x10000 ≤ point

/-- Breaks that keep their identity; all others are line feeds. -/
def isSeparator (char : Char) : Bool := char = '\u2028' || char = '\u2029'

/-- The character ends a line. -/
def isBreak (char : Char) : Bool := char = '\n' || isSeparator char

/-- A blank within a line. -/
def isBlank (char : Char) : Bool := char = ' ' || char = '\t'

/-- A blank or a break. -/
def isGap (char : Char) : Bool := isBlank char || isBreak char

/-- A character of a name. -/
def isWord (char : Char) : Bool := char.isAlphanum || char = '_' || char = '-'

/-- Gives every character its place. -/
def place (line column : Nat) : List Char → List Glyph
  | [] => []
  | '\r' :: '\n' :: rest => ⟨'\n', line, column⟩ :: place (line + 1) 0 rest
  | char :: rest =>
    if isSeparator char then ⟨char, line, column⟩ :: place (line + 1) 0 rest
    else if char = '\n' ∨ char = '\r' ∨ char = '\u0085' then
      ⟨'\n', line, column⟩ :: place (line + 1) 0 rest
    else ⟨char, line, column⟩ :: place line (column + 1) rest

/-- The placed characters of a text, if it holds none that a file may not. -/
def glyphs? (text : String) : Option (List Glyph) :=
  if text.toList.all isAdmitted then some (place 0 0 text.toList) else none

/-- The column of the next character. -/
def columnOf (glyphs : List Glyph) : Nat := (glyphs.head?.map Glyph.column).getD 0

/-- The line of the next character. -/
def lineOf (glyphs : List Glyph) : Nat := (glyphs.head?.map Glyph.line).getD 0

/-- The next character satisfies a test. -/
def starts (test : Char → Bool) (glyphs : List Glyph) : Bool :=
  glyphs.head?.any fun glyph => test glyph.char

/-- The next character is this one. -/
def startsWith (char : Char) (glyphs : List Glyph) : Bool := starts (· = char) glyphs

/-- A gap or the end of the file comes next. -/
def atGap : List Glyph → Bool
  | [] => true
  | glyph :: _ => isGap glyph.char

/-- A break or the end of the file comes next. -/
def atBreak : List Glyph → Bool
  | [] => true
  | glyph :: _ => isBreak glyph.char

/-- Three signs of one kind at the beginning of a line, with a gap behind them. -/
def atMarker (sign : Char) : List Glyph → Bool
  | first :: second :: third :: rest =>
    first.column == 0 && first.char == sign && second.char == sign && third.char == sign &&
      atGap rest
  | _ => false

/-- The beginning or the end of a document is marked here. -/
def atDocumentMarker (glyphs : List Glyph) : Bool :=
  atMarker '-' glyphs || atMarker '.' glyphs

/-- Drops the characters that satisfy a test. -/
def skipWhile (test : Char → Bool) (glyphs : List Glyph) : List Glyph :=
  glyphs.dropWhile fun glyph => test glyph.char

/-- Splits off the characters that satisfy a test. -/
def splitWhile (test : Char → Bool) (glyphs : List Glyph) : List Char × List Glyph :=
  ((glyphs.takeWhile fun glyph => test glyph.char).map Glyph.char, skipWhile test glyphs)

/-- Blanks and a comment up to the end of the line, and the break there. -/
def endOfLine? (glyphs : List Glyph) : Option (List Glyph) :=
  let rest := skipWhile isBlank glyphs
  let rest := if startsWith '#' rest then skipWhile (!isBreak ·) rest else rest
  if atBreak rest then some rest.tail else none

/-- Joins the breaks of a gap: a single line feed becomes a space, and the first of several
is dropped. -/
def fold : List Char → List Char
  | ['\n'] => [' ']
  | '\n' :: rest => rest
  | breaks => breaks

end DatasetPicker.Yaml
