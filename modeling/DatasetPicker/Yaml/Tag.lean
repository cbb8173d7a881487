import DatasetPicker.Json.Reader
import DatasetPicker.Yaml.Glyph
import DatasetPicker.Yaml.Token

/-!
# Names, tags and directives

The signs that begin with `&`, `*`, `!` or `%`. A tag is a handle and an ending; what the
handle stands for is declared by a directive.
-/

namespace DatasetPicker.Yaml

/-- The name of an anchor or an alias, which must end where it can be seen. -/
def name? (glyphs : List Glyph) : Option (String × List Glyph) :=
  let (name, rest) := splitWhile isWord glyphs
  if name.isEmpty then none
  else if atGap rest || starts (['?', ':', ',', ']', '\x7d', '%', '@', '\x60'].contains ·) rest
  then some (String.ofList name, rest)
  else none

/-- A percent sign and two hexadecimal digits: the octet they give. -/
def octet? : List Glyph → Option (Nat × List Glyph)
  | sign :: high :: low :: rest => do
    if sign.char ≠ '%' then none
    return ((← Json.hexDigit? high.char) * 16 + (← Json.hexDigit? low.char), rest)
  | _ => none

/-- Octets that continue a character. -/
def continued? : Nat → List Glyph → Option (List Glyph)
  | 0, glyphs => some glyphs
  | count + 1, glyphs => do
    let (octet, rest) ← octet? glyphs
    if octet / 64 = 2 then continued? count rest else none

/-- The number of octets behind the first octet of a character. -/
def continuation? (octet : Nat) : Option Nat :=
  if octet < 0x80 then some 0
  else if octet / 0x20 = 6 then some 1
  else if octet / 0x10 = 0xE then some 2
  else if octet / 0x08 = 0x1E then some 3
  else none

/-- An escaped character of a tag. Characters beyond ASCII have no part in any tag that means
something here, so one stands for all of them. -/
def escapedCharacter? (glyphs : List Glyph) : Option (Char × List Glyph) := do
  let (octet, rest) ← octet? glyphs
  let count ← continuation? octet
  let rest ← continued? count rest
  return (if count = 0 then Char.ofNat octet else '\ufffd', rest)

/-- A character that may stand in a tag; some may do so only in a tag between angles. -/
def isTagChar (free : Bool) (char : Char) : Bool :=
  isWord char ||
    [';', '/', '?', ':', '@', '&', '=', '+', '$', '.', '%', '!', '~', '*', '\'', '(',
      ')'].contains char ||
    (free && [',', '[', ']'].contains char)

/-- The characters of a tag. -/
def tagText? (free : Bool) : Nat → List Glyph → Option (List Char × List Glyph)
  | 0, _ => none
  | _, [] => some ([], [])
  | allowance + 1, glyph :: rest =>
    if !isTagChar free glyph.char then some ([], glyph :: rest)
    else do
      let (char, rest) ← if glyph.char = '%' then escapedCharacter? (glyph :: rest)
        else some (glyph.char, rest)
      let (text, rest) ← tagText? free allowance rest
      return (char :: text, rest)

/-- The characters of a tag, of which there must be one. -/
def someTagText? (free : Bool) (glyphs : List Glyph) : Option (String × List Glyph) := do
  let (text, rest) ← tagText? free (glyphs.length + 1) glyphs
  if text.isEmpty then none
  return (String.ofList text, rest)

/-- A handle: an exclamation mark, and perhaps a name with a second mark. Also gives whether
the second mark is there. -/
def handle? : List Glyph → Option (List Char × Bool × List Glyph)
  | [] => none
  | mark :: rest =>
    if mark.char ≠ '!' then none
    else
      let (name, rest) := splitWhile isWord rest
      if startsWith '!' rest then some ('!' :: name ++ ['!'], true, rest.tail)
      else some ('!' :: name, false, rest)

/-- A tag. Without a second mark, the name behind the first one belongs to the ending. -/
def tagParts? (glyphs : List Glyph) : Option (Token × List Glyph) := do
  if startsWith '<' glyphs.tail then
    let (ending, rest) ← someTagText? true (glyphs.drop 2)
    if startsWith '>' rest then return (.tag "" ending, rest.tail) else none
  else
    let (handle, closed, rest) ← handle? glyphs
    if closed then
      let (ending, rest) ← someTagText? false rest
      return (.tag (String.ofList handle) ending, rest)
    else
      let (text, rest) ← tagText? false (rest.length + 1) rest
      match handle.tail ++ text with
      | [] => return (.tag "" "!", rest)
      | ending => return (.tag "!" (String.ofList ending), rest)

/-- A tag with a gap behind it; in a flow collection a comma will do. -/
def tag? (inFlow : Bool) (glyphs : List Glyph) : Option (Token × List Glyph) := do
  let (tag, rest) ← tagParts? glyphs
  if atGap rest || (inFlow && startsWith ',' rest) then return (tag, rest) else none

/-- The number of a version: at most nine digits. -/
def versionNumber? (glyphs : List Glyph) : Option (Nat × List Glyph) :=
  let (digits, rest) := splitWhile Char.isDigit glyphs
  if digits.isEmpty || 9 < digits.length then none else some (Json.decimal digits, rest)

/-- A directive, behind its sign. -/
def directive? (glyphs : List Glyph) : Option (Token × List Glyph) := do
  let (name, rest) := splitWhile isWord glyphs
  if !atGap rest then none
  let value := skipWhile isBlank rest
  if name = ['Y', 'A', 'M', 'L'] then
    let (major, rest) ← versionNumber? value
    if !startsWith '.' rest then none
    let (minor, rest) ← versionNumber? rest.tail
    return (.version major minor, ← endOfLine? rest)
  else if name = ['T', 'A', 'G'] then
    let (handle, closed, rest) ← handle? value
    if !closed && handle.length ≠ 1 then none
    if !starts isBlank rest then none
    let (expansion, rest) ← someTagText? true (skipWhile isBlank rest)
    if !atGap rest then none
    return (.handle (String.ofList handle) expansion, ← endOfLine? rest)
  else none

end DatasetPicker.Yaml
