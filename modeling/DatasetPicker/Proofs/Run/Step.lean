import DatasetPicker.Run
import DatasetPicker.Proofs.App.Expiry

/-!
# The steps of a run

A run acts on events and runs what is due in any order; in between, the feed is replaced
and time passes. What is shown along the way depends on the engine alone. The display only
follows, and it tells the engine where a click is on.
-/

namespace DatasetPicker.Run

open App (Command errorTimer)
open Selector (CommitError)

/-- What can happen to a run. -/
inductive Step where
  | event (event : Terminal.Event)
  | feed (active : String) (datasets : List String)
  | wait (milliseconds : Nat)
  | drain
  deriving DecidableEq, Repr

/-- Takes a step. -/
def take (run : Run) : Step → Run
  | .event event => run.handle event
  | .feed active datasets =>
    let (engine, records) := run.engine.setDatasets active datasets
    { run with engine, records := run.records ++ records }
  | .wait milliseconds => { run with engine := run.engine.wait milliseconds }
  | .drain => run.drain

/-- Takes steps in order. -/
def follow (run : Run) (steps : List Step) : Run := steps.foldl take run

/-- The command of an event, if it is not a new size. -/
def command? (bindings : App.Bindings) : Terminal.Event → Option Command
  | .key key => some (bindings.command key)
  | .pointer pointer => some (.pointer pointer)
  | .resize _ => none
  | .tick => some .tick

/-- What the commands of a step do. -/
def done (run : Run) : Step → List Engine.Processed
  | .event event =>
    ((command? run.engine.bindings event).map run.engine.process).toList
  | .feed .. | .wait _ => []
  | .drain => run.engine.drain.2

/-- How often the commands of a step put something under a key or cancel it. -/
def orders (run : Run) (step : Step) : Nat :=
  ((run.done step).flatMap Engine.Processed.effects).countP (· ≠ .render)

/-- How often something is put under a key or cancelled along some steps. -/
def ordersAlong (run : Run) : List Step → Nat
  | [] => 0
  | step :: rest => run.orders step + (run.take step).ordersAlong rest

variable (run : Run)

/-- After the first steps come the others. -/
theorem follow_append (first others : List Step) :
    run.follow (first ++ others) = (run.follow first).follow others :=
  List.foldl_append ..

/-- The orders along some steps are those along the first and those along the others. -/
theorem ordersAlong_append (first others : List Step) :
    run.ordersAlong (first ++ others) =
      run.ordersAlong first + (run.follow first).ordersAlong others := by
  induction first generalizing run with
  | nil => exact (Nat.zero_add _).symm
  | cons step rest ih =>
    rw [List.cons_append, ordersAlong, ordersAlong, ih, Nat.add_assoc]
    rfl

/-! ## Engines -/

/-- Taking over what a command did takes over its engine. -/
theorem process_engine (command : Command) :
    (run.process command).engine = (run.engine.process command).engine := by
  simp only [process, absorb]
  split <;> rfl

/-- The engine after an event: its command is run, and a new size changes the layout
only. -/
theorem handle_engine (event : Terminal.Event) :
    (∃ command, command? run.engine.bindings event = some command ∧
        (run.handle event).engine = (run.engine.process command).engine) ∨
      command? run.engine.bindings event = none ∧
        (run.handle event).engine = { run.engine with app := run.engine.app.view.1 } := by
  cases event with
  | key key => exact .inl ⟨_, rfl, process_engine run _⟩
  | pointer pointer => exact .inl ⟨_, rfl, process_engine run _⟩
  | resize size => exact .inr ⟨rfl, rfl⟩
  | tick => exact .inl ⟨_, rfl, process_engine run _⟩

/-- No step changes the bindings or how long a rejection is shown. -/
theorem take_fixed (timers : Engine.Timers run.engine.schedule) (step : Step) :
    (run.take step).engine.bindings = run.engine.bindings ∧
      (run.take step).engine.app.errorTimeout = run.engine.app.errorTimeout := by
  cases step with
  | event event =>
    change (run.handle event).engine.bindings = _ ∧ (run.handle event).engine.app.errorTimeout = _
    obtain ⟨command, -, after⟩ | ⟨-, after⟩ := handle_engine run event
    · obtain ⟨bindings, -, errorTimeout⟩ := run.engine.process_fixed command
      rw [after]
      exact ⟨bindings, errorTimeout⟩
    · rw [after]
      exact ⟨rfl, rfl⟩
  | feed active datasets => exact ⟨rfl, rfl⟩
  | wait milliseconds => exact ⟨rfl, rfl⟩
  | drain =>
    change run.engine.drain.1.bindings = _ ∧ run.engine.drain.1.app.errorTimeout = _
    obtain ⟨visibleError, layout, drained, -, -⟩ := run.engine.drain_engine timers
    rw [drained]
    exact ⟨rfl, rfl⟩

/-- A step adds at most one to a version for each of its orders. -/
theorem take_version (timers : Engine.Timers run.engine.schedule) (step : Step) (key : String) :
    (run.take step).engine.schedule.version key ≤
      run.engine.schedule.version key + run.orders step := by
  cases step with
  | event event =>
    change (run.handle event).engine.schedule.version key ≤ _
    obtain ⟨command, found, after⟩ | ⟨found, after⟩ := handle_engine run event
    · have bound := run.engine.process_version command key
      rw [after]
      simpa [orders, done, found] using bound
    · rw [after]
      exact Nat.le_add_right _ _
  | feed active datasets => exact Nat.le_add_right _ _
  | wait milliseconds => exact Nat.le_add_right _ _
  | drain =>
    change run.engine.drain.1.schedule.version key ≤ _
    obtain ⟨visibleError, layout, drained, -, -⟩ := run.engine.drain_engine timers
    rw [drained]
    exact Nat.le_add_right _ _

end DatasetPicker.Run
