import DatasetPicker.App.Bindings
import DatasetPicker.App.Reduce
import DatasetPicker.App.Schedule

/-!
# The engine

The engine runs the application on a clock: a command is reduced, its effects on the
schedule are carried out at the current time, and the view is drawn once if the command
asked for it. Commands that were delayed are run when they are drained.
-/

namespace DatasetPicker

/-- The application with its key bindings, its schedule and the time in milliseconds. -/
structure Engine where
  app : App
  bindings : App.Bindings := .standard
  schedule : App.Schedule App.Command := {}
  now : Nat := 0

namespace Engine

/-- What running one command did. -/
structure Processed where
  engine : Engine
  command : App.Command
  effects : List App.Effect
  view : Option View
  records : List Journal.Record

/-- Carries out what an effect asks of the schedule. -/
def reschedule (now : Nat) (schedule : App.Schedule App.Command) :
    App.Effect → App.Schedule App.Command
  | .render => schedule
  | .debounce key delay command => schedule.debounce key delay command now
  | .cancel key => schedule.cancel key

/-- Draws the view if an effect asks for it. -/
def drawIfAsked (app : App) (effects : List App.Effect) : App × Option View :=
  if effects.contains .render then
    let (app, view) := app.view
    (app, some view)
  else (app, none)

/-- Runs a command. -/
def process (engine : Engine) (command : App.Command) : Processed :=
  let reduction := App.reduce engine.app command
  let schedule := reduction.effects.foldl (reschedule engine.now) engine.schedule
  let (app, view) := drawIfAsked reduction.app reduction.effects
  { engine := { engine with app, schedule }
    command
    effects := reduction.effects
    view
    records := reduction.records }

/-- Runs commands in order. -/
def processAll (engine : Engine) : List App.Command → Engine × List Processed
  | [] => (engine, [])
  | command :: rest =>
    let first := engine.process command
    let (last, others) := first.engine.processAll rest
    (last, first :: others)

/-- Runs the command of a key. -/
def press (engine : Engine) (key : App.Key) : Processed :=
  engine.process (engine.bindings.command key)

/-- Runs the delayed commands that are due. -/
def drain (engine : Engine) : Engine × List Processed :=
  let (commands, schedule) := engine.schedule.drain engine.now
  { engine with schedule }.processAll commands

/-- Lets time pass. -/
def wait (engine : Engine) (milliseconds : Nat) : Engine :=
  { engine with now := engine.now + milliseconds }

/-- Replaces the feed of datasets. The view is not drawn. -/
def setDatasets (engine : Engine) (active : String) (datasets : List String) :
    Engine × List Journal.Record :=
  let (app, records) := engine.app.setDatasets active datasets
  ({ engine with app }, records)

end Engine

end DatasetPicker
