import DatasetPicker.Yaml.Node.Reader

/-!
# Reading known fields of a document

What a node means depends on what is asked for. A text is any scalar as it is written; a
number and a missing value must be written plainly. A plain scalar without characters
stands also for a sequence or a mapping without entries. An alias is read as the node that
it stands for.
-/

namespace DatasetPicker.Yaml

namespace Document

/-- The text of a scalar. -/
def text? (document : Document) (node : Node) : Option String :=
  match document.follow node with
  | .scalar _ _ text => some text
  | _ => none

/-- The value of a digit. -/
def digit? (base : Nat) (char : Char) : Option Nat :=
  (Json.hexDigit? char).filter (· < base)

/-- The number of some digits in a base. -/
def digits? (base : Nat) (digits : List Char) : Option Nat :=
  if digits.isEmpty then none
  else (digits.mapM (digit? base)).map (·.foldl (fun value digit => value * base + digit) 0)

/-- Decimal digits, of which the first may be zero only if it is the only one. -/
def decimal? (digits : List Char) : Option Nat :=
  match digits with
  | '0' :: _ :: _ => none
  | _ => digits? 10 digits

/-- A natural number: perhaps a plus sign, and digits in the base that is announced. -/
def naturalOfText? (text : List Char) : Option Nat :=
  let unsigned := match text with
    | '+' :: rest => rest
    | _ => text
  match unsigned with
  | '0' :: 'x' :: digits => digits? 16 digits
  | '0' :: 'o' :: digits => digits? 8 digits
  | '0' :: 'b' :: digits => digits? 2 digits
  | digits => decimal? digits

/-- The tag of a number. -/
def numberTag : String := "tag:yaml.org,2002:int"

/-- A natural number below a bound. It is written plainly, or as a literal block with the
tag of a number. -/
def natural? (document : Document) (bound : Nat) (node : Node) : Option Nat :=
  match document.follow node with
  | .scalar label style text =>
    if style = .plain || (style = .literal && label.tag = some numberTag) then
      (naturalOfText? text.toList).filter (· < bound)
    else none
  | _ => none

/-- The items of a sequence, each read in the same way. -/
def list? (document : Document) (read : Node → Option α) (node : Node) : Option (List α) :=
  match document.follow node with
  | .sequence _ items => items.mapM read
  | .scalar _ .plain "" => some []
  | _ => none

/-- The words for a missing value. -/
def isNullWord (text : String) : Bool := ["~", "null", "Null", "NULL"].contains text

/-- The tag of a missing value. -/
def nullTag : String := "tag:yaml.org,2002:null"

/-- Whether a value is missing. A plain scalar with the tag of a missing value must say so
as well; any other tag makes it a value. -/
def missing? (document : Document) (node : Node) : Option Bool :=
  match document.follow node with
  | .scalar label .plain text =>
    match label.tag with
    | none => some (text.isEmpty || isNullWord text)
    | some tag =>
      if tag ≠ nullTag then some false
      else if isNullWord text then some true
      else none
  | _ => some false

/-- A value that may be missing. -/
def optional? (document : Document) (read : Node → Option α) (node : Node) :
    Option (Option α) := do
  if ← document.missing? node then return none
  return some (← read node)

/-- The entries of a mapping by the texts of their keys. -/
def entries? (document : Document) (node : Node) : Option (List (String × Node)) :=
  match document.follow node with
  | .mapping _ entries => entries.mapM fun (key, value) => (document.text? key).map (·, value)
  | .scalar _ .plain "" => some []
  | _ => none

/-- The value of a key, if it is given at most once. -/
def field? (entries : List (String × Node)) (name : String) : Option (Option Node) :=
  match entries.filter (·.1 = name) with
  | [] => some none
  | [(_, node)] => some (some node)
  | _ => none

end Document

/-- Reads a field that has a default. -/
def orDefault (value : α) (read : Node → Option α) : Option Node → Option α
  | none => some value
  | some node => read node

end DatasetPicker.Yaml
