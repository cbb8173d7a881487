import DatasetPicker.CommandLine
import DatasetPicker.Run
import DatasetPicker.Surroundings

/-!
# The program

What the program does with its arguments: it finds its settings, opens the journal and the
backend, loads the configuration and runs the header on the terminal.
-/

namespace DatasetPicker

namespace Program

/-- The settings of a run: those of the file, or the defaults, with what the arguments give
put over them. -/
def settings (around : Surroundings) (arguments : Arguments) : Except Failure Settings := do
  let base ← match arguments.settings with
    | some path => around.settings path
    | none => .ok {}
  arguments.overrides.resolve base

/-- The header that settings ask for, on a backend. -/
def header (settings : Settings) (backend : Backend) : Header.Outcome :=
  Header.start settings.branding settings.dataset settings.datasets backend .first

/-- The engine that settings ask for, on a backend, and what is reported about it. -/
def engine (around : Surroundings) (settings : Settings) (backend : Backend) :
    Engine × List Journal.Record :=
  let (answer, source) := (around.source settings).fetch
  let (store, _, loaded) := ({} : Config.Store).loadOrKeep answer
  let header := header settings backend
  ({ app := App.start header.header store source settings.errorTimeout header.fresh },
    loaded ++ header.records)

/-- Opens the backend that settings ask for and sets up the engine on it. -/
def prepare (around : Surroundings) (settings : Settings) :
    Except Failure Engine × List Journal.Record :=
  let (backend, connected) := around.backend settings
  match backend with
  | .error failure => (.error failure, connected)
  | .ok backend =>
    let (engine, prepared) := engine around settings backend
    (.ok engine, connected ++ prepared)

/-- What a run of the program leaves behind. -/
structure Outcome where
  result : Except Failure Unit
  /-- The path of the journal, if it was opened. -/
  journal : Option String := none
  records : List Journal.Record := []
  draws : List Terminal.Draw := []

/-- Runs the header with settings, on a terminal of a size, through some events. -/
def runSettings (around : Surroundings) (settings : Settings) (size : Terminal.Size)
    (events : List Terminal.Event) : Outcome :=
  match around.openJournal settings.logFile false with
  | .error failure => { result := .error failure }
  | .ok path =>
    let (engine, prepared) := prepare around settings
    match engine with
    | .error failure =>
      { result := .error failure, journal := some path, records := prepared }
    | .ok engine =>
      let run := Run.all engine { size } size events
      { result := .ok ()
        journal := some path
        records := prepared ++ run.records
        draws := run.draws }

/-- Runs the program. -/
def run (around : Surroundings) (arguments : Arguments) (size : Terminal.Size)
    (events : List Terminal.Event) : Outcome :=
  match settings around arguments with
  | .error failure => { result := .error failure }
  | .ok settings => runSettings around settings size events

end Program

end DatasetPicker
