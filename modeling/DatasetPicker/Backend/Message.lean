import DatasetPicker.Json.Fields
import DatasetPicker.Json.Reader
import DatasetPicker.Json.Writer

/-!
# Messages to the server

A message has a kind and a payload of named values, in the order in which they were
added. On the wire it is one JSON object.
-/

namespace DatasetPicker.Backend

/-- A message. -/
structure Message where
  kind : String
  payload : List (String × Json.Value) := []
  deriving Repr

namespace Message

/-- Adds a value to the payload. A name that is already there keeps its place and takes
the new value. -/
def withValue (message : Message) (name : String) (value : Json.Value) : Message :=
  { message with payload := Json.insertKept name value message.payload }

/-- A message with a payload built up in order. -/
def build (kind : String) (entries : List (String × Json.Value)) : Message :=
  entries.foldl (fun message (name, value) => message.withValue name value) { kind }

/-- Tells the server which dataset was selected. -/
def setDataset (name : String) : Message :=
  { kind := "set_dataset", payload := [("dataset_name", .string name)] }

/-- Asks the server to refresh. -/
def refresh : Message := { kind := "refresh" }

/-- Writes a message. -/
def write (message : Message) : List Char :=
  Json.writeObject
    [("type", Json.writeString message.kind),
      ("payload", Json.writeObject (Json.Value.writeMembers message.payload))]

/-- The text of a message. -/
def toJson (message : Message) : String := String.ofList message.write

/-- The line of a message in a stream. -/
def line (message : Message) : List Char := message.write ++ ['\n']

/-- The deepest nesting of arrays and objects that a message may have in all. -/
def greatestDepth : Nat := 127

/-- A payload in a tree. The message and the payload itself are two levels of nesting. -/
def payloadOfTree? : Json.Tree → Option (List (String × Json.Value))
  | .object members => do
    let pairs ← Json.Tree.valuesOfMembers? members
    if Json.Value.depthOfMembers pairs + 2 ≤ greatestDepth then
      return pairs.foldl (fun kept (name, value) => Json.insertKept name value kept) []
    else none
  | _ => none

/-- A message in a tree. -/
def ofTree? (tree : Json.Tree) : Option Message := do
  match ← tree.fields? ["type", "payload"] with
  | [kind, payload] =>
    return {
      kind := ← Json.required (·.text?) kind
      payload := ← Json.required payloadOfTree? payload }
  | _ => none

/-- The message of a text. -/
def ofJson? (text : String) : Option Message := (Json.read? text).bind ofTree?

end Message

end DatasetPicker.Backend
