import DatasetPicker.Yaml.Token

/-!
# Nodes of a document

A document is a tree of scalars, sequences and mappings. A node can be anchored in a slot,
and an alias stands for the node in a slot.
-/

namespace DatasetPicker.Yaml

/-- What a node carries besides its content. -/
structure Label where
  slot : Option Nat := none
  tag : Option String := none
  deriving DecidableEq, Repr

/-- A node. -/
inductive Node where
  | alias (slot : Nat)
  | scalar (label : Label) (style : Style) (text : String)
  | sequence (label : Label) (items : List Node)
  | mapping (label : Label) (entries : List (Node × Node))
  deriving Repr, Inhabited

/-- The node that stands where nothing is written. -/
def Node.empty : Node := .scalar {} .plain ""

mutual

/-- The anchored nodes within a node with their slots, in the order of their beginnings. -/
def Node.anchored : Node → List (Nat × Node)
  | .alias _ => []
  | .scalar label style text => (label.slot.map (·, .scalar label style text)).toList
  | .sequence label items =>
    (label.slot.map (·, .sequence label items)).toList ++ anchoredInItems items
  | .mapping label entries =>
    (label.slot.map (·, .mapping label entries)).toList ++ anchoredInEntries entries

/-- The anchored nodes within the items of a sequence. -/
def Node.anchoredInItems : List Node → List (Nat × Node)
  | [] => []
  | item :: rest => item.anchored ++ anchoredInItems rest

/-- The anchored nodes within the entries of a mapping. -/
def Node.anchoredInEntries : List (Node × Node) → List (Nat × Node)
  | [] => []
  | (key, value) :: rest => key.anchored ++ value.anchored ++ anchoredInEntries rest

end

/-- A document. -/
structure Document where
  root : Node
  deriving Repr

/-- The node in a slot: the last one that was put there. -/
def Document.node? (document : Document) (slot : Nat) : Option Node :=
  ((document.root.anchored.filter (·.1 = slot)).getLast?).map (·.2)

/-- The node itself, or the node that an alias stands for. -/
def Document.follow (document : Document) : Node → Node
  | .alias slot => (document.node? slot).getD .empty
  | node => node

end DatasetPicker.Yaml
