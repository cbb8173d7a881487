import DatasetPicker.App.Engine
import DatasetPicker.Terminal.Display

/-!
# A run of the header

A run puts the engine behind a display. It draws the header once, and then, until the
application is told to exit, it runs what is due and acts on one event after the other.
-/

namespace DatasetPicker

open Terminal (Display Draw Size)

/-- A run: the engine, the display, and what they have written so far. -/
structure Run where
  engine : Engine
  display : Display
  draws : List Draw := []
  records : List Journal.Record := []

namespace Run

/-- A record of the run. -/
def record (level : Journal.Level) (message : String) (items : List Journal.Item := []) :
    Journal.Record :=
  { level, speaker := .runner, message, items }

/-- The record of a command, if it is one that is listed. -/
def commandRecord (command : App.Command) : List Journal.Record :=
  (command.write?.map fun written => record .debug "command" [.value "command" written]).toList

/-- Draws a view. -/
def present (run : Run) (view : View) : Run :=
  let (display, draws) := run.display.render view.frame
  { run with display, draws := run.draws ++ draws }

/-- Draws the application as it is now. -/
def redraw (run : Run) : Run :=
  let (app, view) := run.engine.app.view
  { run with engine := { run.engine with app } }.present view

/-- Takes over what a command did. -/
def absorb (run : Run) (processed : Engine.Processed) : Run :=
  let run :=
    { run with
      engine := processed.engine
      records := run.records ++ commandRecord processed.command ++ processed.records }
  match processed.view with
  | some view => run.present view
  | none => run

/-- Runs a command. -/
def process (run : Run) (command : App.Command) : Run :=
  run.absorb (run.engine.process command)

/-- Runs what is due. -/
def drain (run : Run) : Run :=
  let (engine, all) := run.engine.drain
  { all.foldl absorb run with engine }

/-- Acts on an event. -/
def handle (run : Run) : Terminal.Event → Run
  | .key key => run.process (run.engine.bindings.command key)
  | .pointer pointer => run.process (.pointer pointer)
  | .resize size => { run with display := run.display.resize size }.redraw
  | .tick => run.process .tick

/-- Enters the screen and draws the header for the first time. -/
def start (engine : Engine) (display : Display) (size : Size) : Run :=
  let (display, draws) := display.enter size
  { engine, display, draws, records := [record .info "header started"] : Run }.redraw

/-- Runs what is due and then acts on an event, unless the application has been told to
exit. -/
def step (run : Run) (event : Terminal.Event) : Run :=
  if run.engine.app.exiting then run else run.drain.handle event

/-- Acts on events in order. -/
def steps (run : Run) (events : List Terminal.Event) : Run := events.foldl step run

/-- Leaves the screen. -/
def stop (run : Run) : Run :=
  let (display, draws) := run.display.leave
  { run with
    display
    draws := run.draws ++ draws
    records := run.records ++ [record .info "header stopped"] }

/-- How long to wait for an event when nothing is due, in milliseconds. -/
def idleWait : Nat := 120

/-- How long to wait for the next event. -/
def patience (run : Run) : Nat :=
  run.engine.schedule.pollTimeout run.engine.now idleWait

/-- A whole run: events are acted on until one of them ends it. -/
def all (engine : Engine) (display : Display) (size : Size) (events : List Terminal.Event) :
    Run :=
  ((start engine display size).steps events).stop

end Run

end DatasetPicker
