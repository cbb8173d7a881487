import DatasetPicker.Selector.Basic

/-!
# Transitions of the selector

One event takes a mode and a context to the next. A transition decides nothing by
itself beyond its arguments: the id for a rejection is handed in, and whoever runs the
selector acts on the effects. An event that the mode does not accept changes nothing.
-/

namespace DatasetPicker.Selector

/-- The outcome of one event. -/
structure Transition where
  mode : Mode
  context : Context
  effects : List Effect := []
  /-- False when the mode does not accept the event. -/
  handled : Bool := true
  deriving DecidableEq, Repr

/-- The transition of an event that is not accepted. -/
def Transition.ignored (mode : Mode) (context : Context) : Transition :=
  { mode, context, handled := false }

namespace Context

/-- The context of a new feed: the active value is selected if it is among the names. -/
def feed (value : String) (values : List String) (listener : Option Listener) : Context :=
  let committed := if value.isEmpty || values.contains value then value else ""
  { values, value := committed, committed, previous := committed, listener }

/-- The context on entering the editing mode: every name is offered. -/
def startEditing (context : Context) : Context :=
  { context with
    previous := context.value
    results := context.values
    current := none
    completion := completion? context.value context.values }

/-- The highlight of a typed text: the result that equals it, unless that is the first. -/
def highlight? (text : String) (results : List String) : Option Nat :=
  (results.idxOf? text).filter (0 < ·)

/-- The context after the text was changed. -/
def retype (text : String) (context : Context) : Context :=
  let results := matching text context.values
  { context with
    value := text
    results
    current := highlight? text results
    completion := completion? text context.values }

/-- Moves the highlight down by one, as far as the last result. -/
def moveDown (context : Context) : Context :=
  let current :=
    if context.results.isEmpty then none
    else match context.current with
      | none => some 0
      | some index => some (min (index + 1) (context.results.length - 1))
  { context with
    value := (current.bind (context.results[·]?)).getD context.value
    current
    completion := none }

/-- Moves the highlight up by one; above the first result the text before editing is
restored. -/
def moveUp (context : Context) : Context :=
  match context.current with
  | some (index + 1) =>
    match context.results[index]? with
    | some name => { context with value := name, current := some index, completion := none }
    | none =>
      { context with value := context.previous, current := none, completion := none }
  | _ => { context with value := context.previous, current := none, completion := none }

/-- The context on return to the reading mode: everything about the edit is dropped. -/
def stopEditing (context : Context) : Context :=
  { context with current := none, results := [], completion := none, error := none }

/-- The context after a known value was accepted. -/
def accept (value : String) (context : Context) : Context :=
  stopEditing { context with committed := value, value, previous := value }

/-- The context after the edit was abandoned. -/
def abandon (context : Context) : Context :=
  stopEditing { context with value := context.previous }

end Context

/-- Accepts a known value and refuses any other; a refusal uses up the `fresh` id. -/
def commit (mode : Mode) (context : Context) (value : String) (fresh : ErrorId) :
    Transition :=
  if context.values.contains value then
    { mode := .reading
      context := context.accept value
      effects := if value = context.committed then [] else [.committed value] }
  else
    let error : CommitError := ⟨fresh, value⟩
    { mode, context := { context with error := some error }, effects := [.rejected error] }

/-- What one event does. -/
def transition (mode : Mode) (context : Context) (event : Event) (fresh : ErrorId) :
    Transition :=
  match event, mode with
  | .setValues value values listener, _ =>
    { mode := .reading, context := .feed value values listener }
  | .edit, .reading => { mode := .entry, context := context.startEditing }
  | .change text, .editing .. => { mode, context := context.retype text }
  | .nextResult, .editing .. => { mode, context := context.moveDown }
  | .previousResult, .editing .. => { mode, context := context.moveUp }
  | .focusInput, .editing _ results => { mode := .editing .focused results, context }
  | .unfocusInput, .editing _ results => { mode := .editing .unfocused results, context }
  | .enterResults, .editing input _ => { mode := .editing input .hovering, context }
  | .leaveResults, .editing input _ => { mode := .editing input .notHovering, context }
  | .blur, .editing .. => { mode := .reading, context := context.abandon }
  | .commit value, .editing .. => commit mode context value fresh
  | _, _ => .ignored mode context

/-- The id that the next rejection gets after some effects. -/
def nextFresh (fresh : ErrorId) (effects : List Effect) : ErrorId :=
  effects.foldl (fun id effect => match effect with
    | .rejected _ => id.next
    | .committed _ => id) fresh

/-- The warning about an active dataset that is not known. -/
def Event.warnings (event : Event) : List Journal.Record :=
  match event.unknownActive? with
  | none => []
  | some value =>
    [{ level := .warn
       speaker := .machine
       message := "active dataset is not a known dataset; clearing selection"
       items := [.value "dataset" value] }]

end DatasetPicker.Selector
