import DatasetPicker.Yaml.Node
import DatasetPicker.Yaml.Token.Reader

/-!
# Reading nodes

A file holds at most one document, and the tokens of the document are one node. An anchor
takes the slot whose number is the count of the names known so far, so that a name that is
given again does not keep its slot.

Nodes nest, so their readers are given an allowance that shrinks with each step; the number
of tokens bounds the number of steps.
-/

namespace DatasetPicker.Yaml

/-- The tokens that are left, and what the document has declared. -/
structure NodeReader where
  tokens : List Token
  /-- What the handles of tags stand for. -/
  handles : List (String × String) := []
  /-- The known names with their slots. -/
  names : List (String × Nat) := []

namespace NodeReader

/-- A reader of part of a document. -/
abbrev Read := StateT NodeReader Option

/-- The next token. -/
def peek : Read (Option Token) := do return (← get).tokens.head?

/-- Passes over the next token. -/
def skip : Read Unit := modify fun reader => { reader with tokens := reader.tokens.tail }

/-- Passes over the next token, which must be this one. -/
def expect (token : Token) : Read Unit := do
  if (← peek) = some token then skip else failure

/-- Passes over the next token if it is this one, and tells whether it was. -/
def accept (token : Token) : Read Bool := do
  if (← peek) = some token then
    skip
    return true
  else return false

/-- The next token is one of these. -/
def at? (tokens : List Token) : Read Bool := do return (← peek).any tokens.contains

/-- Gives a name a slot. -/
def name (name : String) : Read Nat := do
  let names := (← get).names
  let slot := names.length
  modify fun reader =>
    { reader with names := names.filter (·.1 ≠ name) ++ [(name, slot)] }
  return slot

/-- The slot of a name. -/
def slotOf (name : String) : Read Nat := do
  match (← get).names.lookup name with
  | some slot => return slot
  | none => failure

/-- What handles stand for unless a directive says otherwise. -/
def standardHandles : List (String × String) := [("!", "!"), ("!!", "tag:yaml.org,2002:")]

/-- The full tag of a handle and an ending. -/
def fullTag (handle ending : String) : Read String := do
  if handle.isEmpty then return ending
  match ((← get).handles ++ standardHandles).lookup handle with
  | some expansion => return expansion ++ ending
  | none => failure

/-- An anchor, if one follows. -/
def anchor? : Read (Option String) := do
  match ← peek with
  | some (.anchor name) =>
    skip
    return some name
  | _ => return none

/-- A tag, if one follows. -/
def tag? : Read (Option (String × String)) := do
  match ← peek with
  | some (.tag handle ending) =>
    skip
    return some (handle, ending)
  | _ => return none

/-- An anchor and a tag, in either order. -/
def label : Read Label := do
  let first ← anchor?
  let tag ← tag?
  let anchor ← match first with
    | some name => pure (some name)
    | none => if tag.isSome then anchor? else pure none
  let full ← tag.mapM fun (handle, ending) => fullTag handle ending
  let slot ← anchor.mapM name
  return { slot, tag := full }

/-- A tag that says only that the scalar is not plain. -/
def bareTag : String := "!"

/-- A scalar; the bare tag is no tag. -/
def scalar (label : Label) (style : Style) (text : String) : Node :=
  .scalar { label with tag := label.tag.filter (· ≠ bareTag) } style text

mutual

/-- A node. Block collections may stand only in blocks, and the entries of a sequence that
is not indented only behind a key or a colon. -/
def node (inBlock entries : Bool) : Nat → Read Node
  | 0 => failure
  | allowance + 1 => do
    match ← peek with
    | some (.alias name) =>
      skip
      return .alias (← slotOf name)
    | _ =>
      let label ← label
      match ← peek, inBlock, entries with
      | some .blockEntry, _, true => return .sequence label (← looseItems allowance)
      | some (.scalar style text), _, _ =>
        skip
        return scalar label style text
      | some .flowSequence, _, _ =>
        skip
        return .sequence label (← flowItems true allowance)
      | some .flowMapping, _, _ =>
        skip
        return .mapping label (← flowEntries true allowance)
      | some .blockSequence, true, _ =>
        skip
        return .sequence label (← blockItems allowance)
      | some .blockMapping, true, _ =>
        skip
        return .mapping label (← blockEntries allowance)
      | _, _, _ => if label = {} then failure else return .scalar label .plain ""

/-- A node, unless one of these tokens shows that nothing is written. -/
def nodeUnless (stops : List Token) (inBlock entries : Bool) : Nat → Read Node
  | 0 => failure
  | allowance + 1 => do
    if ← at? stops then return .empty else node inBlock entries allowance

/-- The items of an indented sequence. -/
def blockItems : Nat → Read (List Node)
  | 0 => failure
  | allowance + 1 => do
    if ← accept .blockEntry then
      let item ← nodeUnless [.blockEntry, .blockEnd] true false allowance
      return item :: (← blockItems allowance)
    else
      expect .blockEnd
      return []

/-- The items of a sequence that is not indented. -/
def looseItems : Nat → Read (List Node)
  | 0 => failure
  | allowance + 1 => do
    if ← accept .blockEntry then
      let item ← nodeUnless [.blockEntry, .key, .value, .blockEnd] true false allowance
      return item :: (← looseItems allowance)
    else return []

/-- The entries of a block mapping. -/
def blockEntries : Nat → Read (List (Node × Node))
  | 0 => failure
  | allowance + 1 => do
    if ← accept .key then
      let key ← nodeUnless [.key, .value, .blockEnd] true true allowance
      let value ← if ← accept .value then
          nodeUnless [.key, .value, .blockEnd] true true allowance
        else pure .empty
      return (key, value) :: (← blockEntries allowance)
    else
      expect .blockEnd
      return []

/-- The items of a flow sequence. -/
def flowItems (first : Bool) : Nat → Read (List Node)
  | 0 => failure
  | allowance + 1 => do
    if ← accept .flowSequenceEnd then return []
    if !first then
      expect .flowEntry
      if ← accept .flowSequenceEnd then return []
    let item ← if ← accept .key then pair allowance else node false false allowance
    return item :: (← flowItems false allowance)

/-- A mapping of one entry in a flow sequence. Where its key is missing, the sign behind it
is passed over. -/
def pair : Nat → Read Node
  | 0 => failure
  | allowance + 1 => do
    let missing ← at? [.value, .flowEntry, .flowSequenceEnd]
    let key ← if missing then do skip; pure .empty else node false false allowance
    let value ← if ← accept .value then
        nodeUnless [.flowEntry, .flowSequenceEnd] false false allowance
      else pure .empty
    return .mapping {} [(key, value)]

/-- The entries of a flow mapping. -/
def flowEntries (first : Bool) : Nat → Read (List (Node × Node))
  | 0 => failure
  | allowance + 1 => do
    if ← accept .flowMappingEnd then return []
    if !first then
      expect .flowEntry
      if ← accept .flowMappingEnd then return []
    if ← accept .key then
      let key ← nodeUnless [.value, .flowEntry, .flowMappingEnd] false false allowance
      let value ← if ← accept .value then
          nodeUnless [.flowEntry, .flowMappingEnd] false false allowance
        else pure .empty
      return (key, value) :: (← flowEntries false allowance)
    else
      let key ← node false false allowance
      return (key, .empty) :: (← flowEntries false allowance)

end

/-- The directives at the head of a document. The version may be given once, and a handle
may be declared once. -/
def directives (versioned : Bool) : Nat → Read Unit
  | 0 => failure
  | allowance + 1 => do
    match ← peek with
    | some (.version major minor) =>
      if versioned || major ≠ 1 || (minor ≠ 1 && minor ≠ 2) then failure
      skip
      directives true allowance
    | some (.handle name expansion) =>
      let handles := (← get).handles
      if (handles.lookup name).isSome then failure
      modify fun reader => { reader with handles := handles ++ [(name, expansion)] }
      skip
      directives versioned allowance
    | _ => return

/-- The tokens that can open a document. -/
def opensDocument : Token → Bool
  | .version .. | .handle .. | .documentStart => true
  | _ => false

/-- The tokens that can stand behind the start of a document without content. -/
def endsDocument : Option Token → Bool
  | none | some .documentEnd => true
  | some token => opensDocument token

/-- Passes over the ends of the document, behind which nothing may follow. -/
def close : Nat → Read Unit
  | 0 => failure
  | allowance + 1 => do
    if ← accept .documentEnd then close allowance
    else if (← peek).isSome then failure

/-- The document, if there is one. -/
def document (allowance : Nat) : Read (Option Document) := do
  match ← peek with
  | none => return none
  | some token =>
    let root ← if opensDocument token then do
        directives false allowance
        expect .documentStart
        if endsDocument (← peek) then pure .empty else node true false allowance
      else node true false allowance
    close allowance
    return some ⟨root⟩

end NodeReader

/-- The document of a text, or none in a text without one. The outer option tells whether
the text can be read at all. -/
def document? (text : String) : Option (Option Document) := do
  let tokens ← tokens? text
  (NodeReader.document (4 * tokens.length + 8) |>.run' { tokens })

end DatasetPicker.Yaml
