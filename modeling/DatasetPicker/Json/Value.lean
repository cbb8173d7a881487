import DatasetPicker.Json.Tree
import DatasetPicker.Number.Shortest

/-!
# JSON values

A value is what a tree means when nothing else is known about it. Integers of 64 bits,
signed or not, stay integers and all other numbers are floating-point. An object is
sorted by the names of its members, and of a repeated name the last member counts.
-/

namespace DatasetPicker.Json

/-- A value. -/
inductive Value where
  | null
  | bool (value : Bool)
  | integer (value : Int)
  | float (value : Number.Binary64)
  | string (value : String)
  | array (items : List Value)
  | object (members : List (String × Value))
  deriving Repr, Inhabited

/-- Puts a member into a list sorted by name; it replaces a member of the same name. -/
def insertSorted (name : String) (value : α) : List (String × α) → List (String × α)
  | [] => [(name, value)]
  | (other, kept) :: rest =>
    if name < other then (name, value) :: (other, kept) :: rest
    else if name = other then (name, value) :: rest
    else (other, kept) :: insertSorted name value rest

/-- Puts an entry into a list in order of arrival; a repeated name keeps its place and
takes the new value. -/
def insertKept (name : String) (value : α) : List (String × α) → List (String × α)
  | [] => [(name, value)]
  | (other, kept) :: rest =>
    if name = other then (name, value) :: rest
    else (other, kept) :: insertKept name value rest

/-- The least and the greatest integers that stay integers. -/
def isInteger64 (value : Int) : Bool := -(Int.pow 2 63) ≤ value && value < Int.pow 2 64

/-- Reads on while the digits fit 64 bits: the number so far, and the digits that did not
fit. -/
def takeDigits (value : Nat) : List Char → Nat × List Char
  | [] => (value, [])
  | digit :: rest =>
    let longer := value * 10 + (digit.toNat - '0'.toNat)
    if longer < UInt64.size then takeDigits longer rest else (value, digit :: rest)

/-- The number of a numeral as a decimal that fits 64 bits: digits that do not fit before
the point only count, and those after it are dropped. -/
def Numeral.significand (numeral : Numeral) : Nat × Int :=
  let (whole, overflow) := takeDigits 0 numeral.whole
  let (digits, dropped) := takeDigits whole numeral.fraction
  (digits, (overflow.length : Int) - ((numeral.fraction.length : Int) - dropped.length))

/-- The exponent as an integer. -/
def Exponent.value (exponent : Exponent) : Int :=
  let magnitude : Int := decimal exponent.digits
  if exponent.negative then -magnitude else magnitude

/-- The greatest exponent that is worked out. A greater one leaves zero or is refused. -/
def greatestExponent : Nat := Nat.pow 2 31 - 1

/-- The floating-point number of a numeral, if it is not too large. -/
def Numeral.float? (numeral : Numeral) : Option Number.Binary64 :=
  let (digits, shift) := numeral.significand
  match numeral.exponent with
  | none => Number.Binary64.ofDecimal? numeral.negative digits shift
  | some exponent =>
    if greatestExponent < decimal exponent.digits then
      if digits = 0 || exponent.negative then some (.zero numeral.negative) else none
    else Number.Binary64.ofDecimal? numeral.negative digits (shift + exponent.value)

/-- The integer of a numeral without fraction and exponent, if it fits 64 bits. A negative
zero is no integer. -/
def Numeral.integer? (numeral : Numeral) : Option Int :=
  if !numeral.fraction.isEmpty || numeral.exponent.isSome then none
  else
    let magnitude : Int := decimal numeral.whole
    if numeral.negative then
      if 0 < magnitude ∧ magnitude ≤ Int.pow 2 63 then some (-magnitude) else none
    else if magnitude < Int.pow 2 64 then some magnitude
    else none

/-- The value of a numeral. -/
def Numeral.value? (numeral : Numeral) : Option Value :=
  match numeral.integer? with
  | some value => some (.integer value)
  | none => numeral.float?.map .float

mutual

/-- How deep arrays and objects are nested in a value. -/
def Value.depth : Value → Nat
  | .array items => depthOfItems items + 1
  | .object members => depthOfMembers members + 1
  | _ => 0

/-- How deep the items of an array are nested. -/
def Value.depthOfItems : List Value → Nat
  | [] => 0
  | item :: rest => max item.depth (depthOfItems rest)

/-- How deep the members of an object are nested. -/
def Value.depthOfMembers : List (String × Value) → Nat
  | [] => 0
  | (_, value) :: rest => max value.depth (depthOfMembers rest)

end

mutual

/-- The value that a tree means. -/
def Tree.value? : Tree → Option Value
  | .null => some .null
  | .bool value => some (.bool value)
  | .number numeral => numeral.value?
  | .string content => content.map .string
  | .array items => (valuesOfItems? items).map .array
  | .object members => (valuesOfMembers? members).map fun pairs =>
      .object (pairs.foldl (fun sorted (name, value) => insertSorted name value sorted) [])

/-- The values that the items of an array mean. -/
def Tree.valuesOfItems? : List Tree → Option (List Value)
  | [] => some []
  | item :: rest => do
    let value ← item.value?
    let values ← valuesOfItems? rest
    return value :: values

/-- The members that an object means, in their order and with repeated names. -/
def Tree.valuesOfMembers? : List (Content × Tree) → Option (List (String × Value))
  | [] => some []
  | (content, tree) :: rest => do
    let name ← content
    let value ← tree.value?
    let pairs ← valuesOfMembers? rest
    return (name, value) :: pairs

end

end DatasetPicker.Json
