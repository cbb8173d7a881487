import DatasetPicker.Header.Basic

/-!
# Settings

What a user can set. Every setting has a default. Settings are used only if nothing is
wrong with them; what is wrong first is told.
-/

namespace DatasetPicker

/-- The settings. Times are in milliseconds. -/
structure Settings where
  title : String := "FiftyOne"
  /-- The known datasets. -/
  datasets : List String := []
  /-- The selected dataset, empty for none. -/
  dataset : String := ""
  /-- The address of the server that receives messages. -/
  backend : Option String := none
  /-- A saved response with the configuration. -/
  configFile : Option String := none
  /-- The server that is asked for the configuration. -/
  configUrl : Option String := none
  queryTimeout : Nat := 5000
  errorTimeout : Nat := 3000
  logFile : Option String := none
  links : List Link := Link.defaults
  deriving DecidableEq, Repr

namespace Settings

/-- What can be wrong with settings. -/
inductive Fault where
  /-- The configuration has two sources. -/
  | twoSources
  /-- A rejection would not be shown at all. -/
  | noErrorTimeout
  | namelessDataset
  | repeatedDataset (name : String)
  | unknownDataset (name : String)
  deriving DecidableEq, Repr

/-- The failure of a fault. -/
def Fault.failure : Fault → Failure
  | .twoSources => .settings "config_file and config_url are mutually exclusive"
  | .noErrorTimeout => .settings "error_timeout_ms must be greater than zero"
  | .namelessDataset => .settings "dataset names cannot be empty"
  | .repeatedDataset name => .settings ("dataset \x60" ++ name ++ "\x60 is listed twice")
  | .unknownDataset name => .unknownDataset name

/-- Gathers the names of a list, beside those that were gathered before, up to its first
fault. -/
def gather (gathered : List String) : List String → Except Fault (List String)
  | [] => .ok gathered
  | name :: rest =>
    if name.isEmpty then .error .namelessDataset
    else if gathered.contains name then .error (.repeatedDataset name)
    else gather (name :: gathered) rest

/-- The fault of the selected dataset, where some names are known. -/
def selectionFault? (settings : Settings) (known : List String) : Option Fault :=
  if settings.dataset.isEmpty || known.contains settings.dataset then none
  else some (.unknownDataset settings.dataset)

/-- The first fault of settings. -/
def fault? (settings : Settings) : Option Fault :=
  if settings.configFile.isSome && settings.configUrl.isSome then some .twoSources
  else if settings.errorTimeout = 0 then some .noErrorTimeout
  else
    match gather [] settings.datasets with
    | .error fault => some fault
    | .ok known => settings.selectionFault? known

/-- Accepts settings without faults. -/
def validate (settings : Settings) : Except Failure Unit :=
  match settings.fault? with
  | none => .ok ()
  | some fault => .error fault.failure

/-- The title and the links of the header. -/
def branding (settings : Settings) : Branding :=
  { title := settings.title, links := settings.links }

/-- Where the configuration comes from. -/
inductive Origin where
  | file (path : String)
  | server (url : String)
  /-- Nowhere: the defaults are used. -/
  | defaults
  deriving DecidableEq, Repr

/-- The source of the configuration; a saved response goes before a server. -/
def origin (settings : Settings) : Origin :=
  match settings.configFile, settings.configUrl with
  | some path, _ => .file path
  | none, some url => .server url
  | none, none => .defaults

/-- Writes a link. -/
def writeLink (link : Link) : List Char :=
  Json.writeObject
    [("title", Json.writeString link.title), ("url", Json.writeString link.url)]

/-- Writes settings. -/
def write (settings : Settings) : List Char :=
  Json.writeObject
    [("title", Json.writeString settings.title),
      ("datasets", Json.writeArray (settings.datasets.map Json.writeString)),
      ("dataset", Json.writeString settings.dataset),
      ("backend", Json.writeOptional settings.backend),
      ("config_file", Json.writeOptional settings.configFile),
      ("config_url", Json.writeOptional settings.configUrl),
      ("query_timeout_ms", Json.writeNatural settings.queryTimeout),
      ("error_timeout_ms", Json.writeNatural settings.errorTimeout),
      ("log_file", Json.writeOptional settings.logFile),
      ("links", Json.writeArray (settings.links.map writeLink))]

/-- The text of settings. -/
def toJson (settings : Settings) : String := String.ofList settings.write

end Settings

end DatasetPicker
