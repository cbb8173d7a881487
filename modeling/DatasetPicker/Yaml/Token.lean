/-!
# Tokens of YAML

The signs of a document with all that indentation means made explicit: where a block
begins and ends, and what is a key.
-/

namespace DatasetPicker.Yaml

/-- How a scalar is written. -/
inductive Style where
  | plain
  | quoted
  | literal
  | folded
  deriving DecidableEq, Repr

/-- A token. -/
inductive Token where
  | version (major minor : Nat)
  /-- Declares what a handle stands for. -/
  | handle (name expansion : String)
  | documentStart
  | documentEnd
  | blockSequence
  | blockMapping
  | blockEnd
  | flowSequence
  | flowSequenceEnd
  | flowMapping
  | flowMappingEnd
  | blockEntry
  | flowEntry
  | key
  | value
  | alias (name : String)
  | anchor (name : String)
  | tag (handle ending : String)
  | scalar (style : Style) (text : String)
  deriving DecidableEq, Repr

end DatasetPicker.Yaml
