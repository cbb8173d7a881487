import DatasetPicker.App.State

/-!
# Reducing commands

What each command does to the application. Operations on the selector always ask for a
new view; a rejection also arms the timer that hides it, and an edit that ends while a
rejection is shown disarms the timer.
-/

namespace DatasetPicker.App

/-- The outcome of a command. -/
structure Reduction where
  app : App
  effects : List Effect := []
  records : List Journal.Record := []

/-- The key under which the hiding of a rejection waits. -/
def errorTimer : String := "commit-error"

/-- A command that changes nothing. -/
def unchanged (app : App) : Reduction := { app }

/-- Timers for the rejections among some effects. -/
def timers (delay : Nat) (effects : List Selector.Effect) : List Effect :=
  effects.filterMap fun effect => match effect with
    | .rejected error => some (.debounce errorTimer delay (.expireError error.id))
    | .committed _ => none

/-- Carries out an operation of the selector. -/
def operate (app : App) (operation : Selector.Operation) : Reduction :=
  let outcome := app.header.perform operation app.fresh
  let disarmed := app.header.visibleError.isSome && outcome.header.visibleError.isNone
  { app := app.withOutcome outcome
    effects :=
      .render :: timers app.errorTimeout outcome.effects ++
        (if disarmed then [.cancel errorTimer] else [])
    records := outcome.records }

/-- Feeds one event to the selector. -/
def dispatch (app : App) (event : Selector.Event) : Reduction := operate app (.send event)

/-- A name is being edited. -/
def isEditing (app : App) : Bool := app.header.session.mode.isEditing

/-- A click on the logo: the server is asked to refresh and the configuration is fetched
again. -/
def refresh (app : App) : Reduction :=
  let (header, sent) := app.header.activateLogo
  let (app, _, loaded) := reload { app with header }
  { app, effects := [.render], records := sent ++ loaded }

/-- A text without its last character. -/
def dropLast (text : String) : String := String.ofList text.toList.dropLast

/-- The text that a key makes of another, if the key has an effect. -/
def typed? (text : String) : KeyCode → Option String
  | .char letter => some (text.push letter)
  | .backspace => if text.isEmpty then none else some (dropLast text)
  | _ => none

/-- A key that is not bound. While a name is edited it types; otherwise it can start an
edit or leave the application. -/
def inputKey (app : App) (key : Key) : Reduction :=
  if key.modifiers.control || key.modifiers.alt then unchanged app
  else if isEditing app then
    match typed? app.header.session.context.value key.code with
    | some text => operate app (.typeText text)
    | none => unchanged app
  else if key.code = .char '/' ∨ key.code = .char 'e' then dispatch app .edit
  else if key.code = .char 'q' then { app := { app with exiting := true } }
  else unchanged app

/-- The pointer moved. While a name is edited, entering and leaving the results is told. -/
def pointerMoved (app : App) (row : Nat) : Reduction :=
  if isEditing app then
    match (app.layout.resultAt? row).isSome, app.header.session.mode.isHovering with
    | true, false => dispatch app .enterResults
    | false, true => dispatch app .leaveResults
    | _, _ => unchanged app
  else unchanged app

/-- A click: on the logo, on a result, on the selector, or elsewhere, in this order. -/
def click (app : App) (column row : Nat) : Reduction :=
  if app.layout.hitsLogo column row then refresh app
  else
    match (if isEditing app then app.layout.resultAt? row else none) with
    | some index => operate app (.select index)
    | none =>
      if app.layout.hitsSelector column row then
        dispatch app (if isEditing app then .focusInput else .edit)
      else if isEditing app then operate app .unfocus
      else unchanged app

/-- What a command does. -/
def reduce (app : App) : Command → Reduction
  | .exit => { app := { app with exiting := true } }
  | .refresh => refresh app
  | .edit => dispatch app .edit
  | .blur => dispatch app .blur
  | .commit => if isEditing app then operate app .submit else dispatch app .edit
  | .nextResult => dispatch app (if isEditing app then .nextResult else .edit)
  | .previousResult => dispatch app .previousResult
  | .acceptCompletion => operate app .complete
  | .clearInput => dispatch app (.change "")
  | .inputKey key => inputKey app key
  | .pointer ⟨.moved, _, row⟩ => pointerMoved app row
  | .pointer ⟨.click, column, row⟩ => click app column row
  | .expireError id =>
    let (header, hidden) := app.header.expireError id
    { app := { app with header }, effects := if hidden then [.render] else [] }
  | .tick => unchanged app

end DatasetPicker.App
