/-!
# Search among dataset names

Two searches run over the known names while a text is typed. The completion is the
shortest name that begins with the text, and the matching names are those that contain
it. Both are sensitive to case and keep the order of the names.
-/

namespace DatasetPicker.Selector

/-- An inline completion: the whole name and the part that is still to be typed. -/
structure Completion where
  value : String
  placeholder : String
  deriving DecidableEq, Repr

/-- A part occurs in a text when some end of the text begins with it. -/
def occursIn (part : List Char) : List Char → Bool
  | [] => part.isEmpty
  | char :: rest => part.isPrefixOf (char :: rest) || occursIn part rest

/-- The name contains the query. -/
def contains (query name : String) : Bool := occursIn query.toList name.toList

/-- The name begins with the query. -/
def beginsWith (query name : String) : Bool := query.toList.isPrefixOf name.toList

/-- The first of the shortest names, by bytes. -/
def shortest? : List String → Option String
  | [] => none
  | name :: rest =>
    match shortest? rest with
    | none => some name
    | some best => some (if name.utf8ByteSize ≤ best.utf8ByteSize then name else best)

/-- The completion of a query. An empty query has none. -/
def completion? (query : String) (names : List String) : Option Completion :=
  if query.isEmpty then none
  else
    (shortest? (names.filter (beginsWith query))).map fun name =>
      { value := name
        placeholder := String.ofList (name.toList.drop query.toList.length) }

/-- The names that contain the query. An empty query keeps them all. -/
def matching (query : String) (names : List String) : List String :=
  if query.isEmpty then names else names.filter (contains query)

end DatasetPicker.Selector
