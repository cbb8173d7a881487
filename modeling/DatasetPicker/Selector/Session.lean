import DatasetPicker.Selector.Transition

/-!
# A live selector

A session owns a mode and a context and carries out operations on them: single events,
and the combinations that a view needs. What an operation reports is kept in order: its
journal records, and the names that listeners are told.
-/

namespace DatasetPicker.Selector

/-- A selector in use. -/
structure Session where
  mode : Mode
  context : Context
  deriving DecidableEq, Repr

/-- One thing that an operation reports. -/
inductive Report where
  | entry (record : Journal.Record)
  /-- The listener is told the name of the dataset that was committed. -/
  | told (listener : Listener) (name : String)
  deriving DecidableEq, Repr

/-- The outcome of an operation on a session. -/
structure Reaction where
  session : Session
  /-- The id for the next rejection. -/
  fresh : ErrorId
  effects : List Effect := []
  reports : List Report := []
  deriving DecidableEq, Repr

/-- What a view can do to a session. -/
inductive Operation where
  | send (event : Event)
  /-- Leaving the input abandons the edit, unless the pointer is over the results. -/
  | unfocus
  /-- Commits the result of an index; without such a result nothing happens. -/
  | select (index : Nat)
  /-- Replaces the text by the inline completion, if there is one. -/
  | complete
  /-- Commits the text in the input. -/
  | submit
  /-- Puts the focus into the input, if it is not there, and changes the text. -/
  | typeText (text : String)
  deriving DecidableEq, Repr

namespace Session

/-- The record of a change of mode. -/
def moved (event : Event) (before after : Mode) : List Report :=
  if before = after then []
  else
    [.entry
      { level := .debug
        speaker := .selector
        message := "selector transition"
        items :=
          [.value "event" (Text.Quoted.text event.name), .value "from" before.write,
            .value "to" after.write] }]

/-- What is reported about an effect: a commit is told to the listener, if there is one. -/
def announce (listener : Option Listener) : Effect → List Report
  | .committed value =>
    .entry
      { level := .info
        speaker := .selector
        message := "dataset committed"
        items := [.value "dataset" value] } ::
      (listener.map (Report.told · value)).toList
  | .rejected error =>
    [.entry
      { level := .debug
        speaker := .selector
        message := "commit rejected"
        items := [.value "id" error.id.write, .remark error.message] }]

/-- Feeds one event to the session. -/
def send (session : Session) (event : Event) (fresh : ErrorId) : Reaction :=
  let result := transition session.mode session.context event fresh
  { session := ⟨result.mode, result.context⟩
    fresh := nextFresh fresh result.effects
    effects := result.effects
    reports :=
      event.warnings.map .entry ++ moved event session.mode result.mode ++
        result.effects.flatMap (announce result.context.listener) }

/-- Feeds events one after the other. -/
def sendAll (session : Session) (fresh : ErrorId) : List Event → Reaction
  | [] => { session, fresh }
  | event :: rest =>
    let first := session.send event fresh
    let others := sendAll first.session first.fresh rest
    { session := others.session
      fresh := others.fresh
      effects := first.effects ++ others.effects
      reports := first.reports ++ others.reports }

/-- The events that an operation stands for. -/
def events (session : Session) : Operation → List Event
  | .send event => [event]
  | .unfocus =>
    if session.mode.isEditing && !session.mode.isHovering then [.unfocusInput, .blur]
    else [.unfocusInput]
  | .select index => (session.context.results[index]?).toList.map .commit
  | .complete => session.context.completion.toList.map (Event.change ·.value)
  | .submit => [.commit session.context.value]
  | .typeText text =>
    if session.mode.isFocused then [.change text] else [.focusInput, .change text]

/-- Carries out an operation. -/
def perform (session : Session) (operation : Operation) (fresh : ErrorId) : Reaction :=
  session.sendAll fresh (session.events operation)

/-- A new session on a feed of datasets. -/
def start (value : String) (values : List String) (listener : Option Listener)
    (fresh : ErrorId) : Reaction :=
  send ⟨.reading, {}⟩ (.setValues value values listener) fresh

end Session

end DatasetPicker.Selector
