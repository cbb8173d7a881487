import DatasetPicker.Journal
import DatasetPicker.Selector.Search

/-!
# The parts of a dataset selector

A selector is reading, when it shows the committed dataset, or editing, when a name is
typed and chosen. Editing has two independent regions: whether the input has the focus
and whether the pointer is over the list of results. The context holds the texts and
lists that both modes share. Events come in; effects go out.
-/

namespace DatasetPicker.Selector

/-- Whether the text input has the focus. -/
inductive Focus where
  | focused
  | unfocused
  deriving DecidableEq, Repr

/-- Whether the pointer is over the list of results. -/
inductive Hover where
  | hovering
  | notHovering
  deriving DecidableEq, Repr

/-- What the selector is doing. -/
inductive Mode where
  | reading
  | editing (input : Focus) (results : Hover)
  deriving DecidableEq, Repr

namespace Mode

/-- Editing starts with the focus in the input and the pointer elsewhere. -/
def entry : Mode := .editing .focused .notHovering

/-- A name is being edited. -/
def isEditing : Mode → Bool
  | .reading => false
  | .editing _ _ => true

/-- The pointer is over the results. -/
def isHovering : Mode → Bool
  | .editing _ .hovering => true
  | _ => false

/-- The input has the focus. -/
def isFocused : Mode → Bool
  | .editing .focused _ => true
  | _ => false

/-- The mode as a journal value. -/
def write : Mode → String
  | .reading => "Reading"
  | .editing input results =>
    let input := match input with
      | .focused => "Focused"
      | .unfocused => "Unfocused"
    let results := match results with
      | .hovering => "Hovering"
      | .notHovering => "NotHovering"
    "Editing \x7b input: " ++ input ++ ", results: " ++ results ++ " \x7d"

end Mode

/-- The number of a rejected commit. No two rejections share one. -/
structure ErrorId where
  number : Nat
  deriving DecidableEq, Repr

/-- The text under which a rejection is listed in the journal. -/
def ErrorId.write (id : ErrorId) : String := "commit-error-" ++ toString id.number

/-- The id after this one. -/
def ErrorId.next (id : ErrorId) : ErrorId := ⟨id.number + 1⟩

/-- The first id of a run. -/
def ErrorId.first : ErrorId := ⟨1⟩

/-- The rejection of a value that is not a known dataset. -/
structure CommitError where
  id : ErrorId
  /-- The value that was refused. -/
  value : String
  deriving DecidableEq, Repr

namespace CommitError

/-- The field of the form that the error belongs to. -/
def field : String := "name"

/-- The text shown to the user. -/
def message (error : CommitError) : String := error.value ++ " does not exist"

end CommitError

/-- Who is told when a commit changes the selection. -/
inductive Listener where
  /-- The server behind the header. -/
  | server
  /-- An observer with a name of its own. -/
  | observer (name : String)
  deriving DecidableEq, Repr

/-- What the selector knows and shows. -/
structure Context where
  /-- The known dataset names. -/
  values : List String := []
  /-- The text in the input. -/
  value : String := ""
  /-- The last accepted dataset, empty when none is selected. -/
  committed : String := ""
  /-- The text when editing started. -/
  previous : String := ""
  /-- The highlighted result. -/
  current : Option Nat := none
  /-- The names offered for the text. -/
  results : List String := []
  completion : Option Completion := none
  error : Option CommitError := none
  listener : Option Listener := none
  deriving DecidableEq, Repr

namespace Context

/-- A list of texts as a journal value, and an optional value. -/
def writeOption (written : Option String) : String :=
  match written with
  | none => "None"
  | some content => "Some(" ++ content ++ ")"

/-- The completion as a journal value. -/
def writeCompletion (completion : Completion) : String :=
  "BestMatch \x7b value: " ++ Text.Quoted.text completion.value ++ ", placeholder: " ++
    Text.Quoted.text completion.placeholder ++ " \x7d"

/-- The error as a journal value. -/
def writeError (error : CommitError) : String :=
  "CommitError \x7b id: ErrorId(" ++ toString error.id.number ++ "), name: " ++
    Text.Quoted.text CommitError.field ++ ", error: " ++ Text.Quoted.text error.message ++
    " \x7d"

/-- The context as a journal value. -/
def write (context : Context) : String :=
  "SelectorContext \x7b values: " ++ Text.Quoted.texts context.values ++
    ", value: " ++ Text.Quoted.text context.value ++
    ", committed: " ++ Text.Quoted.text context.committed ++
    ", prev_value: " ++ Text.Quoted.text context.previous ++
    ", current_result: " ++ writeOption (context.current.map toString) ++
    ", results: " ++ Text.Quoted.texts context.results ++
    ", best_match: " ++ writeOption (context.completion.map writeCompletion) ++
    ", error: " ++ writeOption (context.error.map writeError) ++
    ", on_commit: " ++ (if context.listener.isSome then "true" else "false") ++ " \x7d"

end Context

/-- What can happen to a selector. -/
inductive Event where
  /-- The feed of datasets is replaced, with the active one and who is told of commits. -/
  | setValues (value : String) (values : List String) (listener : Option Listener)
  | edit
  | change (text : String)
  | nextResult
  | previousResult
  | focusInput
  | unfocusInput
  | enterResults
  | leaveResults
  | blur
  | commit (value : String)
  deriving DecidableEq, Repr

namespace Event

/-- The name under which the event is listed in the journal. -/
def name : Event → String
  | .setValues .. => "SET_VALUES"
  | .edit => "EDIT"
  | .change _ => "CHANGE"
  | .nextResult => "NEXT_RESULT"
  | .previousResult => "PREVIOUS_RESULT"
  | .focusInput => "FOCUS_INPUT"
  | .unfocusInput => "UNFOCUS_INPUT"
  | .enterResults => "MOUSEENTER_RESULTS"
  | .leaveResults => "MOUSELEAVE_RESULTS"
  | .blur => "BLUR"
  | .commit _ => "COMMIT"

/-- The event as a journal value. Of a feed only the active value and the count show. -/
def write : Event → String
  | .setValues value values _ =>
    "SetValues \x7b value: " ++ Text.Quoted.text value ++ ", values: " ++
      toString values.length ++ ", .. \x7d"
  | .change text => "Change(" ++ Text.Quoted.text text ++ ")"
  | .commit value => "Commit(" ++ Text.Quoted.text value ++ ")"
  | event => event.name

/-- The active value of a feed that is missing from its own list of names. -/
def unknownActive? : Event → Option String
  | .setValues value values _ =>
    if value.isEmpty || values.contains value then none else some value
  | _ => none

end Event

/-- What a transition asks for. -/
inductive Effect where
  /-- A commit changed the selected dataset. -/
  | committed (value : String)
  /-- A commit was refused. -/
  | rejected (error : CommitError)
  deriving DecidableEq, Repr

end DatasetPicker.Selector
