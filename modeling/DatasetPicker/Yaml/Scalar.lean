import DatasetPicker.Json.Reader
import DatasetPicker.Yaml.Glyph

/-!
# Scalars of YAML

A scalar is written plainly, between quotes, or as a block of lines. Where it runs over
several lines the breaks are folded: one break is a space, and of several the first is
dropped.

Every reader gives what it read with the characters after it. Readers of several lines are
given an allowance; each line uses up one of it and at least one character.
-/

namespace DatasetPicker.Yaml

/-- What stands between two words of a scalar. -/
structure Gap where
  blanks : List Char := []
  breaks : List Char := []
  deriving DecidableEq, Repr

/-- The text that a gap adds. -/
def Gap.text (gap : Gap) : List Char :=
  if gap.breaks.isEmpty then gap.blanks else fold gap.breaks

/-- A gap in a plain scalar. Behind a break, a tab may not stand left of the least column. -/
def plainGap (least : Nat) (gap : Gap) : List Glyph → Option (Gap × List Glyph)
  | [] => some (gap, [])
  | glyph :: rest =>
    if isBlank glyph.char then
      if gap.breaks.isEmpty then
        plainGap least { gap with blanks := gap.blanks ++ [glyph.char] } rest
      else if glyph.char = '\t' ∧ glyph.column < least then none
      else plainGap least gap rest
    else if isBreak glyph.char then
      plainGap least { gap with breaks := gap.breaks ++ [glyph.char] } rest
    else some (gap, glyph :: rest)

/-- The signs that end a plain scalar in a flow collection. -/
def isFlowSign (char : Char) : Bool :=
  char = ',' || char = '[' || char = ']' || char = '\x7b' || char = '\x7d'

/-- A word of a plain scalar. It ends at a gap, at a colon with a gap behind it and, in a
flow collection, at a sign of the collection; there a colon may not touch such a sign. -/
def plainWord (inFlow : Bool) : List Glyph → Option (List Char × List Glyph)
  | [] => some ([], [])
  | glyph :: rest =>
    if isGap glyph.char then some ([], glyph :: rest)
    else if inFlow && glyph.char = ':' && starts (fun c => isFlowSign c || c = '?') rest then
      none
    else if (glyph.char = ':' && atGap rest) || (inFlow && isFlowSign glyph.char) then
      some ([], glyph :: rest)
    else (plainWord inFlow rest).map fun (word, rest) => (glyph.char :: word, rest)

/-- The rest of a plain scalar behind a gap: its text, whether it ends behind a break, and
the characters after it. The gap belongs to the text only if a word follows. -/
def plainWords (inFlow : Bool) (least : Nat) :
    Nat → Gap → List Glyph → Option (List Char × Bool × List Glyph)
  | 0, _, _ => none
  | allowance + 1, gap, glyphs =>
    if atDocumentMarker glyphs || startsWith '#' glyphs then
      some ([], !gap.breaks.isEmpty, glyphs)
    else do
      let (word, rest) ← plainWord inFlow glyphs
      if word.isEmpty then return ([], !gap.breaks.isEmpty, rest)
      let (next, rest) ← plainGap least {} rest
      if next = {} then return (gap.text ++ word, false, rest)
      if !inFlow && columnOf rest < least then
        return (gap.text ++ word, !next.breaks.isEmpty, rest)
      let (words, broken, rest) ← plainWords inFlow least allowance next rest
      return (gap.text ++ word ++ words, broken, rest)

/-- A plain scalar. -/
def plain? (inFlow : Bool) (least : Nat) (glyphs : List Glyph) :
    Option (List Char × Bool × List Glyph) :=
  plainWords inFlow least (glyphs.length + 1) {} glyphs

/-- The character of an escape of one letter. -/
def escaped? (letter : Char) : Option Char :=
  match letter with
  | '0' => some '\x00'
  | 'a' => some '\x07'
  | 'b' => some '\x08'
  | 't' | '\t' => some '\t'
  | 'n' => some '\n'
  | 'v' => some '\x0b'
  | 'f' => some '\x0c'
  | 'r' => some '\r'
  | 'e' => some '\x1b'
  | ' ' => some ' '
  | '"' => some '"'
  | '/' => some '/'
  | '\\' => some '\\'
  | 'N' => some '\u0085'
  | '_' => some '\u00a0'
  | 'L' => some '\u2028'
  | 'P' => some '\u2029'
  | _ => none

/-- The number of digits behind a letter that announces a code point. -/
def digitCount? (letter : Char) : Option Nat :=
  match letter with
  | 'x' => some 2
  | 'u' => some 4
  | 'U' => some 8
  | _ => none

/-- The character of a code point, if there is one. -/
def character? (point : Nat) : Option Char :=
  if point.isValidChar then some (Char.ofNat point) else none

/-- The character whose code point the next digits give. -/
def codePoint? (count : Nat) (glyphs : List Glyph) : Option Char := do
  let digits := glyphs.take count
  if digits.length < count then none
  let values ← digits.mapM fun glyph => Json.hexDigit? glyph.char
  character? (values.foldl (fun value digit => value * 16 + digit) 0)

/-- How a word between quotes ends. -/
inductive WordEnd where
  | gap
  | quote
  /-- At a break that is escaped. -/
  | escapedBreak
  deriving DecidableEq, Repr

/-- A word between single quotes, where a quote is written twice. -/
def singleWord : List Glyph → List Char × WordEnd × List Glyph
  | [] => ([], .gap, [])
  | [glyph] =>
    if isGap glyph.char then ([], .gap, [glyph])
    else if glyph.char = '\'' then ([], .quote, [])
    else ([glyph.char], .gap, [])
  | glyph :: next :: rest =>
    if isGap glyph.char then ([], .gap, glyph :: next :: rest)
    else if glyph.char = '\'' then
      if next.char = '\'' then
        let (word, ending, rest) := singleWord rest
        ('\'' :: word, ending, rest)
      else ([], .quote, next :: rest)
    else
      let (word, ending, rest) := singleWord (next :: rest)
      (glyph.char :: word, ending, rest)

/-- A word between double quotes, where a backslash begins an escape. `skip` characters
belong to an escape that is already read. -/
def doubleWord (skip : Nat) : List Glyph → Option (List Char × WordEnd × List Glyph)
  | [] => some ([], .gap, [])
  | glyph :: rest =>
    match skip with
    | skip + 1 => doubleWord skip rest
    | 0 =>
      if isGap glyph.char then some ([], .gap, glyph :: rest)
      else if glyph.char = '"' then some ([], .quote, rest)
      else if glyph.char = '\\' then
        match rest with
        | [] => none
        | next :: behind =>
          if isBreak next.char then some ([], .escapedBreak, behind)
          else do
            let (char, used) ← match digitCount? next.char with
              | some count => (codePoint? count behind).map (·, count + 1)
              | none => (escaped? next.char).map (·, 1)
            let (word, ending, rest) ← doubleWord used rest
            return (char :: word, ending, rest)
      else (doubleWord 0 rest).map fun (word, ending, rest) =>
        (glyph.char :: word, ending, rest)

/-- A gap between quotes. Behind a break, blanks do not count. -/
def quotedGap (behindBreak : Bool) (gap : Gap) : List Glyph → Gap × List Glyph
  | [] => (gap, [])
  | glyph :: rest =>
    if isBlank glyph.char then
      quotedGap behindBreak
        (if behindBreak then gap else { gap with blanks := gap.blanks ++ [glyph.char] }) rest
    else if isBreak glyph.char then
      quotedGap true { gap with breaks := gap.breaks ++ [glyph.char] } rest
    else (gap, glyph :: rest)

/-- The text between quotes, and what stands behind the closing one. -/
def quotedWords (single : Bool) : Nat → List Glyph → Option (List Char × List Glyph)
  | 0, _ => none
  | allowance + 1, glyphs =>
    if atDocumentMarker glyphs || glyphs.isEmpty then none
    else do
      let (word, ending, rest) ← if single then some (singleWord glyphs)
        else doubleWord 0 glyphs
      match ending with
      | .quote => return (word, rest)
      | .gap =>
        let (gap, rest) := quotedGap false {} rest
        let (words, rest) ← quotedWords single allowance rest
        return (word ++ gap.text ++ words, rest)
      | .escapedBreak =>
        if startsWith '"' rest then return (word, rest.tail)
        let (gap, rest) := quotedGap true {} rest
        let (words, rest) ← quotedWords single allowance rest
        return (word ++ gap.breaks ++ words, rest)

/-- A scalar between quotes, behind the opening one. -/
def quoted? (single : Bool) (glyphs : List Glyph) : Option (List Char × List Glyph) :=
  quotedWords single (glyphs.length + 1) glyphs

/-- Which of the breaks behind a block count. -/
inductive Chomping where
  | strip
  | clip
  | keep
  deriving DecidableEq, Repr

/-- The sign of a chomping. -/
def chomping? (char : Char) : Option Chomping :=
  if char = '+' then some .keep else if char = '-' then some .strip else none

/-- The value of an indentation sign. -/
def increment? (char : Char) : Option Nat :=
  if char.isDigit then some (char.toNat - '0'.toNat) else none

/-- The signs behind the sign of a block: a chomping and an indentation, in either order. -/
def blockHeader (glyphs : List Glyph) : Chomping × Option Nat × List Glyph :=
  let first := glyphs.head?.map Glyph.char
  let second := glyphs.tail.head?.map Glyph.char
  match first.bind chomping?, first.bind increment? with
  | some chomping, _ =>
    match second.bind increment? with
    | some increment => (chomping, some increment, glyphs.drop 2)
    | none => (chomping, none, glyphs.drop 1)
  | none, some increment =>
    match second.bind chomping? with
    | some chomping => (chomping, some increment, glyphs.drop 2)
    | none => (.clip, some increment, glyphs.drop 1)
  | none, none => (.clip, none, glyphs)

/-- The breaks before the next line of a block, with its indentation eaten: the breaks, the
deepest column that was reached, and what follows. While the indentation is not known,
every space belongs to it. -/
def blockBreaks (indent : Option Nat) (deepest : Nat) :
    List Glyph → Option (List Char × Nat × List Glyph)
  | [] => some ([], deepest, [])
  | glyph :: rest =>
    let inside := indent.all (glyph.column < ·)
    if inside && glyph.char = ' ' then blockBreaks indent deepest rest
    else
      let deepest := max deepest glyph.column
      if inside && glyph.char = '\t' then none
      else if isBreak glyph.char then
        (blockBreaks indent deepest rest).map fun (breaks, deepest, rest) =>
          (glyph.char :: breaks, deepest, rest)
      else some ([], deepest, glyph :: rest)

/-- What separates a line of a block from the line before it: in a folded block a single
break between two lines that do not begin with a blank becomes a space. -/
def blockJoin (folded : Bool) (before : List Char) (breaks : List Char)
    (blankBefore blankHere : Bool) : List Char :=
  if folded && before = ['\n'] && !blankBefore && !blankHere then
    if breaks.isEmpty then [' '] else breaks
  else before ++ breaks

/-- The lines of a block, each behind its indentation. `before` is the break of the line
before and `breaks` are those after it. -/
def blockLines (folded : Bool) (chomping : Chomping) (indent : Nat) :
    Nat → List Char → List Char → Bool → List Glyph → Option (List Char × List Glyph)
  | 0, _, _, _, _ => none
  | allowance + 1, before, breaks, blankBefore, glyphs =>
    if glyphs.isEmpty || columnOf glyphs != indent then
      let ending := match chomping with
        | .strip => []
        | .clip => before
        | .keep => before ++ breaks
      some (ending, glyphs)
    else do
      let blankHere := starts isBlank glyphs
      let join := blockJoin folded before breaks blankBefore blankHere
      let (line, rest) := splitWhile (!isBreak ·) glyphs
      let before := (rest.head?.map Glyph.char).toList
      let (breaks, _, rest) ← blockBreaks (some indent) 0 rest.tail
      let (lines, rest) ← blockLines folded chomping indent allowance before breaks blankHere
        rest
      return (join ++ line ++ lines, rest)

/-- A block scalar, behind its sign. `least` is the least column of its lines. -/
def block? (folded : Bool) (least : Nat) (glyphs : List Glyph) :
    Option (List Char × List Glyph) := do
  let (chomping, increment, rest) := blockHeader glyphs
  if increment = some 0 then none
  let rest ← endOfLine? rest
  let indent := increment.map (least - 1 + ·)
  let (breaks, deepest, rest) ← blockBreaks indent 0 rest
  let indent := indent.getD (max deepest (max least 1))
  blockLines folded chomping indent (rest.length + 1) [] breaks false rest

end DatasetPicker.Yaml
