import DatasetPicker.Program
import DatasetPicker.Terminal.Keyboard

/-!
# The executable

Reads files, writes to the terminal and to the journal, and waits for input. What is read,
written and waited for is decided elsewhere. The terminal is expected to hand over input as
it comes and without showing it; its size is taken from the environment.
-/

namespace DatasetPicker.Main

/-- The text of the file at a path. -/
def readText (path : String) : IO (Except Files.Refusal String) := do
  try
    let content ← IO.FS.readBinFile path
    match String.fromUTF8? content with
    | some text => return .ok text
    | none => return .error .notText
  catch error => return .error (.other (toString error))

/-- The texts at some paths. -/
def readTexts (paths : List String) : IO (List (String × Except Files.Refusal String)) :=
  paths.mapM fun path => return (path, ← readText path)

/-- Surroundings in which the texts at some paths are known. Connections are not made. -/
def surroundings (texts : List (String × Except Files.Refusal String)) : Surroundings :=
  { read := fun path => (texts.lookup path).getD (.error .missing)
    checkAppend := fun _ => .ok ()
    fetch := fun url => .error (.http url "no network")
    connect := fun _ => .error (.io "no network")
    temporary := "/tmp" }

/-- A number in the environment. -/
def environmentNumber (name : String) (standard : Nat) : IO Nat := do
  return ((← IO.getEnv name).bind String.toNat?).getD standard

/-- The size of the terminal. -/
def terminalSize : IO Terminal.Size := do
  return { width := ← environmentNumber "COLUMNS" 80
           height := ← environmentNumber "LINES" 24 }

/-- The folder in which a path lies. -/
def folderOf (path : String) : String :=
  String.ofList ((path.toList.reverse.dropWhile (· ≠ '/')).drop 1).reverse

/-- Opens a journal file at its end. -/
def openJournal (path : String) : IO IO.FS.Handle := do
  let folder := folderOf path
  if !folder.isEmpty then IO.FS.createDirAll folder
  IO.FS.Handle.mk path .append

/-- Writes records into the journal. -/
def keepRecords (journal : IO.FS.Handle) (verbose : Bool) (records : List Journal.Record) :
    IO Unit := do
  for line in Journal.lines verbose records do journal.putStrLn line
  journal.flush

/-- Writes what a run has to write. -/
def flush (journal : IO.FS.Handle) (verbose : Bool) (run : Run) : IO Run := do
  let output ← IO.getStdout
  output.putStr (Terminal.Draw.writeAll run.draws)
  output.flush
  keepRecords journal verbose run.records
  return { run with draws := [], records := [] }

/-- Waits until input is there, but not longer than some milliseconds. -/
partial def isReady (input : Task (Except IO.Error ByteArray)) (patience : Nat) : IO Bool := do
  if ← IO.hasFinished input then return true
  if patience = 0 then return false
  let pause := min patience 10
  IO.sleep pause.toUInt32
  isReady input (patience - pause)

/-- Begins to wait for input. -/
def awaitInput : IO (Task (Except IO.Error ByteArray)) := do
  let input ← IO.getStdin
  IO.asTask (input.read 4096)

/-- Brings the clock and the source of the configuration up to date. -/
def refresh (settings : Settings) (run : Run) : IO Run := do
  let texts ← readTexts settings.configFile.toList
  let app := { run.engine.app with source := (surroundings texts).source settings }
  return { run with engine := { run.engine with app, now := ← IO.monoMsNow } }

/-- Acts on input until the run is over. The end of the input ends the run. -/
partial def loop (settings : Settings) (journal : IO.FS.Handle) (verbose : Bool) (run : Run)
    (input : Task (Except IO.Error ByteArray)) : IO Run := do
  let run ← flush journal verbose run
  if run.engine.app.exiting then return run
  if ← isReady input run.patience then
    let content ← IO.ofExcept input.get
    if content.isEmpty then return run
    let chars := ((String.fromUTF8? content).getD "").toList
    let events := (Terminal.Keyboard.reports none chars).map (·.event)
    let run ← refresh settings run
    loop settings journal verbose (run.steps events) (← awaitInput)
  else
    let run ← refresh settings run
    loop settings journal verbose (run.step .tick) input

/-- Runs the header with settings. -/
def runSettings (settings : Settings) (verbose : Bool) : IO (Except Failure Unit) := do
  let around := surroundings (← readTexts settings.configFile.toList)
  try
    let journal ← openJournal (around.journalPath settings.logFile)
    let (prepared, records) := Program.prepare around settings
    keepRecords journal verbose records
    match prepared with
    | .error failure => return .error failure
    | .ok engine =>
      let size ← terminalSize
      let run := Run.start { engine with now := ← IO.monoMsNow } { size } size
      let run ← loop settings journal verbose run (← awaitInput)
      discard <| flush journal verbose run.stop
      return .ok ()
  catch error => return .error (.io (toString error))

/-- Tells why a command line is not run. -/
def explain : CommandLine.Ending → String
  | .help => "dataset-header: dataset selector header for the terminal"
  | .version => "dataset-header 0.1.0"
  | .invalidValue => "error: an option has no valid value"
  | .unknownArgument => "error: unexpected argument"
  | .conflict => "error: an argument cannot be used here"
  | .tooManyValues => "error: a switch takes no value"

/-- Runs the program with its arguments and gives the exit code. -/
def run (arguments : List String) : IO UInt32 := do
  match CommandLine.read arguments with
  | .error ending =>
    if ending.code = 0 then IO.println (explain ending) else IO.eprintln (explain ending)
    return ending.code.toUInt32
  | .ok asked =>
    let around := surroundings (← readTexts asked.settings.toList)
    let outcome ← match Program.settings around asked with
      | .error failure => pure (.error failure)
      | .ok settings => runSettings settings asked.verbose
    match outcome with
    | .ok () => return 0
    | .error failure =>
      IO.eprintln ("Error: " ++ failure.message)
      return 1

end DatasetPicker.Main

/-- Runs the program. -/
def main (arguments : List String) : IO UInt32 := DatasetPicker.Main.run arguments
