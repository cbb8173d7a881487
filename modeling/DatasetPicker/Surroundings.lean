import DatasetPicker.Config.Source
import DatasetPicker.Files
import DatasetPicker.Settings.Reader

/-!
# Surroundings

What a run of the program finds around it: files, servers, and a place for files that
nobody named. Settings and sources are read from there.
-/

namespace DatasetPicker

/-- The surroundings of a run. -/
structure Surroundings where
  /-- The text of the file at a path. -/
  read : String → Except Files.Refusal String
  /-- Whether the file at a path can be appended to. -/
  checkAppend : String → Except Files.Refusal Unit
  /-- What the server at an address answers to the configuration query. -/
  fetch : String → Except Failure Config.Snapshot
  /-- The server at an address that receives messages. -/
  connect : String → Except Failure Backend
  /-- The folder for files that nobody named. -/
  temporary : String

namespace Surroundings

/-- Surroundings with files, but without a network. -/
def ofFiles (files : Files) (temporary : String) : Surroundings :=
  { read := files.read
    checkAppend := files.checkAppend
    fetch := fun url => .error (.http url "no network")
    connect := fun _ => .error (.io "no network")
    temporary }

/-- The text of a file that has to be there. -/
def text (around : Surroundings) (path : String) : Except Failure String :=
  match around.read path with
  | .ok text => .ok text
  | .error refusal => .error (.unreadable path refusal.message)

/-- The settings in the file at a path. -/
def settings (around : Surroundings) (path : String) : Except Failure Settings := do
  Settings.ofYaml (← around.text path)

/-- The configuration in the saved response at a path. -/
def savedSnapshot (around : Surroundings) (path : String) : Except Failure Config.Snapshot := do
  Config.parseResponse (← around.text path)

/-- The source of the configuration that settings ask for. -/
def source (around : Surroundings) (settings : Settings) : Config.Source :=
  match settings.origin with
  | .file path => .always (around.savedSnapshot path)
  | .server url => .server url (around.fetch url)
  | .defaults => .fixed {}

/-- A record about the backend. -/
def connectedRecord (address : String) : Journal.Record :=
  { level := .info
    speaker := .backend
    message := "connected to backend"
    items := [.value "addr" address] }

/-- The record about a backend that was not asked for. -/
def noBackendRecord : Journal.Record :=
  { level := .info
    speaker := .settings
    message := "no backend address configured; messages will only be logged" }

/-- The backend that settings ask for. Without an address, messages go into the journal
only. -/
def backend (around : Surroundings) (settings : Settings) :
    Except Failure Backend × List Journal.Record :=
  match settings.backend with
  | none => (.ok { kind := .journal }, [noBackendRecord])
  | some address =>
    match around.connect address with
    | .ok backend => (.ok backend, [connectedRecord address])
    | .error failure => (.error failure, [])

/-- The name of the journal file, if it was not given. -/
def journalName : String := "dataset-header.log"

/-- The path of the journal file. -/
def journalPath (around : Surroundings) (asked : Option String) : String :=
  asked.getD (around.temporary ++ "/" ++ journalName)

/-- Opens the journal. There is one journal in a run: it can be opened once. -/
def openJournal (around : Surroundings) (asked : Option String) (opened : Bool) :
    Except Failure String :=
  let path := around.journalPath asked
  match around.checkAppend path with
  | .error refusal => .error (.io refusal.message)
  | .ok () =>
    if opened then
      .error (.logging "a global default trace dispatcher has already been set")
    else .ok path

end Surroundings

end DatasetPicker
