import DatasetPicker.Yaml.Scalar
import DatasetPicker.Yaml.Tag

/-!
# Reading tokens

The reader walks over the characters once. It keeps the columns of the open blocks, and
for every open flow collection the place where a key may have begun: that there was a key
shows only at the colon behind it, and then its token is put in before what was read
meanwhile. A key must stand on one line with its colon and may not be too long.
-/

namespace DatasetPicker.Yaml

/-- A place where a key may have begun. -/
structure PossibleKey where
  line : Nat
  column : Nat
  /-- The number of tokens before it. -/
  before : Nat
  /-- Nothing but a key can stand there. -/
  required : Bool
  deriving DecidableEq, Repr

/-- The state of the reader. -/
structure TokenReader where
  rest : List Glyph
  /-- The tokens so far, the last one first. -/
  tokens : List Token := []
  /-- The columns of the open blocks, the innermost first. -/
  blocks : List Nat := []
  /-- The possible key in the innermost collection. -/
  key : Option PossibleKey := none
  /-- The possible keys around the open flow collections. -/
  outer : List (Option PossibleKey) := []
  /-- A key may begin here. -/
  keyAllowed : Bool := true
  deriving Repr

namespace TokenReader

/-- The greatest number of columns between the beginning of a key and its colon. -/
def greatestKey : Nat := 1024

/-- A flow collection is open. -/
def inFlow (reader : TokenReader) : Bool := !reader.outer.isEmpty

/-- The least column at which the current block can go on with something inside it. -/
def inner (reader : TokenReader) : Nat := (reader.blocks.head?.map (· + 1)).getD 0

/-- Adds a token. -/
def emit (reader : TokenReader) (token : Token) : TokenReader :=
  { reader with tokens := token :: reader.tokens }

/-- Puts a token in behind the first `before` tokens. -/
def insert (reader : TokenReader) (before : Nat) (token : Token) : TokenReader :=
  let newer := reader.tokens.length - before
  { reader with tokens := reader.tokens.take newer ++ token :: reader.tokens.drop newer }

/-- Goes on behind some characters. -/
def move (reader : TokenReader) (rest : List Glyph) : TokenReader := { reader with rest }

/-- Allows or forbids a key at this place. -/
def allow (reader : TokenReader) (keyAllowed : Bool) : TokenReader :=
  { reader with keyAllowed }

/-- Gives up the possible key, which must not be required. -/
def dropKey? (reader : TokenReader) : Option TokenReader :=
  if reader.key.any (·.required) then none else some { reader with key := none }

/-- Notes that a key may begin here. -/
def noteKey? (reader : TokenReader) : Option TokenReader :=
  if reader.keyAllowed then do
    let reader ← reader.dropKey?
    let column := columnOf reader.rest
    let key : PossibleKey :=
      { line := lineOf reader.rest
        column
        before := reader.tokens.length
        required := !reader.inFlow && reader.blocks.head? = some column }
    return { reader with key := some key }
  else some reader

/-- A possible key that can no longer be one. -/
def isStale (reader : TokenReader) (key : PossibleKey) : Bool :=
  key.line < lineOf reader.rest || key.column + greatestKey < columnOf reader.rest

/-- Gives up a possible key that can no longer be one. -/
def expire? (reader : TokenReader) : Option PossibleKey → Option (Option PossibleKey)
  | none => some none
  | some key =>
    if reader.isStale key then if key.required then none else some none
    else some (some key)

/-- Gives up all possible keys that can no longer be keys. -/
def expireKeys? (reader : TokenReader) : Option TokenReader :=
  if reader.rest.isEmpty then some reader
  else do
    let key ← reader.expire? reader.key
    let outer ← reader.outer.mapM reader.expire?
    return { reader with key, outer }

/-- Skips blanks, comments and breaks. A tab may not stand where a key may begin. `comment`
tells that a comment goes on. -/
def skipGap (inFlow : Bool) (keyAllowed comment : Bool) : List Glyph → Bool × List Glyph
  | [] => (keyAllowed, [])
  | glyph :: rest =>
    if isBreak glyph.char then skipGap inFlow (keyAllowed || !inFlow) false rest
    else if comment then skipGap inFlow keyAllowed true rest
    else if glyph.char = byteOrderMark ∧ glyph.column = 0 then
      skipGap inFlow keyAllowed false rest
    else if glyph.char = ' ' || (glyph.char = '\t' && (inFlow || !keyAllowed)) then
      skipGap inFlow keyAllowed false rest
    else if glyph.char = '#' then skipGap inFlow keyAllowed true rest
    else (keyAllowed, glyph :: rest)

/-- Goes on to the next sign. -/
def toNextSign (reader : TokenReader) : TokenReader :=
  let (keyAllowed, rest) := skipGap reader.inFlow reader.keyAllowed false reader.rest
  { reader with keyAllowed, rest }

/-- Closes the blocks in a list of columns that a test says are over. -/
def closeWhile (isOver : Nat → Bool) (reader : TokenReader) : List Nat → TokenReader
  | [] => { reader with blocks := [] }
  | column :: blocks =>
    if isOver column then closeWhile isOver (reader.emit .blockEnd) blocks
    else { reader with blocks := column :: blocks }

/-- Closes the blocks that lie deeper than a column. -/
def closeBlocks (reader : TokenReader) (column : Nat) : TokenReader :=
  if reader.inFlow then reader else closeWhile (column < ·) reader reader.blocks

/-- Closes all blocks. -/
def closeAll (reader : TokenReader) : TokenReader :=
  if reader.inFlow then reader else closeWhile (fun _ => true) reader reader.blocks

/-- Opens a block at a column that lies deeper than the blocks so far. Its token goes behind
the first `before` tokens. -/
def openBlock (reader : TokenReader) (column before : Nat) (token : Token) : TokenReader :=
  if !reader.inFlow && reader.blocks.head?.all (· < column) then
    { reader.insert before token with blocks := column :: reader.blocks }
  else reader

/-- Opens a block here. In a block this is possible only where a key may begin. -/
def openHere? (reader : TokenReader) (token : Token) : Option TokenReader :=
  if reader.inFlow then some reader
  else if reader.keyAllowed then
    some (reader.openBlock (columnOf reader.rest) reader.tokens.length token)
  else none

/-- The marker of a document. -/
def marker? (reader : TokenReader) (token : Token) : Option TokenReader := do
  let reader ← reader.closeAll.dropKey?
  return ((reader.allow false).move (reader.rest.drop 3)).emit token

/-- A directive. -/
def directive? (reader : TokenReader) : Option TokenReader := do
  let reader ← reader.closeAll.dropKey?
  let (token, rest) ← Yaml.directive? reader.rest.tail
  return ((reader.allow false).move rest).emit token

/-- The opening sign of a flow collection. -/
def enterFlow? (reader : TokenReader) (token : Token) : Option TokenReader := do
  let reader ← reader.noteKey?
  let reader := (reader.move reader.rest.tail).emit token
  return { reader with key := none, outer := reader.key :: reader.outer, keyAllowed := true }

/-- The closing sign of a flow collection. -/
def leaveFlow? (reader : TokenReader) (token : Token) : Option TokenReader := do
  let reader ← reader.dropKey?
  let reader := ((reader.allow false).move reader.rest.tail).emit token
  return match reader.outer with
    | [] => reader
    | key :: outer => { reader with key, outer }

/-- The comma of a flow collection. -/
def flowEntry? (reader : TokenReader) : Option TokenReader := do
  let reader ← reader.dropKey?
  return ((reader.allow true).move reader.rest.tail).emit .flowEntry

/-- The dash of a block sequence. -/
def blockEntry? (reader : TokenReader) : Option TokenReader := do
  let reader ← (← reader.openHere? .blockSequence).dropKey?
  return ((reader.allow true).move reader.rest.tail).emit .blockEntry

/-- The sign before a key. -/
def keySign? (reader : TokenReader) : Option TokenReader := do
  let reader ← (← reader.openHere? .blockMapping).dropKey?
  return ((reader.allow (!reader.inFlow)).move reader.rest.tail).emit .key

/-- The colon behind a key. -/
def valueSign? (reader : TokenReader) : Option TokenReader := do
  let reader ← match reader.key with
    | some key =>
      let reader := reader.insert key.before .key
      let reader := reader.openBlock key.column key.before .blockMapping
      some ({ reader with key := none }.allow false)
    | none => (reader.openHere? .blockMapping).map fun reader => reader.allow !reader.inFlow
  return (reader.move reader.rest.tail).emit .value

/-- An anchor, an alias, a tag or a quoted scalar: they may begin a key. -/
def sign? (reader : TokenReader) (read : List Glyph → Option (Token × List Glyph)) :
    Option TokenReader := do
  let reader ← reader.noteKey?
  let (token, rest) ← read reader.rest
  return ((reader.allow false).move rest).emit token

/-- A name behind its sign. -/
def named (token : String → Token) (glyphs : List Glyph) : Option (Token × List Glyph) :=
  (name? glyphs.tail).map fun (name, rest) => (token name, rest)

/-- A scalar between quotes. -/
def quotedToken (single : Bool) (glyphs : List Glyph) : Option (Token × List Glyph) :=
  (quoted? single glyphs.tail).map fun (text, rest) =>
    (.scalar .quoted (String.ofList text), rest)

/-- A block scalar. -/
def blockScalar? (reader : TokenReader) (style : Style) : Option TokenReader := do
  let reader ← reader.dropKey?
  let (text, rest) ← block? (style = .folded) reader.inner reader.rest.tail
  return ((reader.allow true).move rest).emit (.scalar style (String.ofList text))

/-- A plain scalar. A key may begin behind it when it ends behind a break. -/
def plainScalar? (reader : TokenReader) : Option TokenReader := do
  let reader ← reader.noteKey?
  let (text, broken, rest) ← plain? reader.inFlow reader.inner reader.rest
  return ((reader.allow broken).move rest).emit (.scalar .plain (String.ofList text))

/-- The signs that cannot begin a plain scalar. -/
def signs : List Char :=
  ['-', '?', ':', ',', '[', ']', '\x7b', '\x7d', '#', '&', '*', '!', '|', '>', '\'', '"',
    '%', '@', '\x60']

/-- A plain scalar may begin with this sign and these characters behind it. -/
def beginsPlain (inFlow : Bool) (char : Char) (behind : List Glyph) : Bool :=
  (!isGap char && !signs.contains char) ||
    (char = '-' && !starts isBlank behind) ||
    (!inFlow && (char = '?' || char = ':') && !atGap behind)

/-- Reads one sign. -/
def read? (reader : TokenReader) (glyph : Glyph) (behind : List Glyph) :
    Option TokenReader :=
  if glyph.column == 0 && glyph.char == '%' then reader.directive?
  else if atMarker '-' reader.rest then reader.marker? .documentStart
  else if atMarker '.' reader.rest then reader.marker? .documentEnd
  else if glyph.char = '[' then reader.enterFlow? .flowSequence
  else if glyph.char = '\x7b' then reader.enterFlow? .flowMapping
  else if glyph.char = ']' then reader.leaveFlow? .flowSequenceEnd
  else if glyph.char = '\x7d' then reader.leaveFlow? .flowMappingEnd
  else if glyph.char = ',' then reader.flowEntry?
  else if glyph.char == '-' && atGap behind then reader.blockEntry?
  else if glyph.char == '?' && (reader.inFlow || atGap behind) then reader.keySign?
  else if glyph.char == ':' && (reader.inFlow || atGap behind) then reader.valueSign?
  else if glyph.char = '*' then reader.sign? (named .alias)
  else if glyph.char = '&' then reader.sign? (named .anchor)
  else if glyph.char = '!' then reader.sign? (tag? reader.inFlow)
  else if glyph.char == '|' && !reader.inFlow then reader.blockScalar? .literal
  else if glyph.char == '>' && !reader.inFlow then reader.blockScalar? .folded
  else if glyph.char = '\'' then reader.sign? (quotedToken true)
  else if glyph.char = '"' then reader.sign? (quotedToken false)
  else if beginsPlain reader.inFlow glyph.char behind then reader.plainScalar?
  else none

/-- Reads the signs that are left. Each takes one of the allowance. -/
def readAll? : Nat → TokenReader → Option TokenReader
  | 0, _ => none
  | allowance + 1, reader => do
    let reader ← reader.toNextSign.expireKeys?
    match reader.rest with
    | [] => reader.closeAll.dropKey?
    | glyph :: behind =>
      readAll? allowance (← (reader.closeBlocks glyph.column).read? glyph behind)

end TokenReader

/-- The tokens of a text. -/
def tokens? (text : String) : Option (List Token) := do
  let glyphs ← glyphs? text
  let reader ← TokenReader.readAll? (glyphs.length + 1) { rest := glyphs }
  return reader.tokens.reverse

end DatasetPicker.Yaml
