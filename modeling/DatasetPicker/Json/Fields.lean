import DatasetPicker.Json.Tree

/-!
# Reading known fields

A record of known fields is read from an object, where their order does not matter and
members of other names are passed over, or from an array, where the fields stand in
their declared order. A field that is named twice is an error.
-/

namespace DatasetPicker.Json

namespace Tree

/-- The text of a string. -/
def text? : Tree → Option String
  | .string content => content
  | _ => none

/-- A truth value. -/
def truth? : Tree → Option Bool
  | .bool value => some value
  | _ => none

/-- A natural number below a bound. -/
def natural? (bound : Nat) : Tree → Option Nat
  | .number numeral => numeral.natural?.filter (· < bound)
  | _ => none

/-- The items of an array, each read in the same way. -/
def list? (read : Tree → Option α) : Tree → Option (List α)
  | .array items => items.mapM read
  | _ => none

/-- A value that may be null. -/
def optional? (read : Tree → Option α) : Tree → Option (Option α)
  | .null => some none
  | tree => (read tree).map some

/-- The members of an object, if all their names are text. -/
def named? (members : List (Content × Tree)) : Option (List (String × Tree)) :=
  members.mapM fun (content, tree) => content.map (·, tree)

/-- The value of a field, if it is named at most once. -/
def field? (members : List (String × Tree)) (name : String) : Option (Option Tree) :=
  match members.filter (·.1 = name) with
  | [] => some none
  | [(_, tree)] => some (some tree)
  | _ => none

/-- The values of the named fields, in the order of the names; a field that is absent has
none. -/
def fields? (names : List String) : Tree → Option (List (Option Tree))
  | .object members => do
    let members ← named? members
    names.mapM (field? members)
  | .array items =>
    if items.length ≤ names.length then
      some (items.map some ++ List.replicate (names.length - items.length) none)
    else none
  | _ => none

end Tree

/-- Reads a field that has a default. -/
def orDefault (value : α) (read : Tree → Option α) : Option Tree → Option α
  | none => some value
  | some tree => read tree

/-- Reads a field that must be there. -/
def required (read : Tree → Option α) (field : Option Tree) : Option α :=
  field.bind read

end DatasetPicker.Json
