import DatasetPicker.Settings.Overrides

/-!
# The command line

The arguments name options, each of which takes one value, and switches. A value follows its
option as the next argument or is attached to it; an option that waits for its value is
settled when the next option or switch is found, or at the end.

Reading can end without a request to run: because help or the version was asked for, or
because of a mistake.
-/

namespace DatasetPicker

/-- What the command line asks for. -/
structure Arguments where
  /-- The settings file. -/
  settings : Option String := none
  overrides : Overrides := {}
  verbose : Bool := false
  deriving DecidableEq, Repr

namespace CommandLine

/-- Why a command line is not a request to run. -/
inductive Ending where
  | help
  | version
  /-- An option without a value, or a path that is empty. -/
  | invalidValue
  | unknownArgument
  /-- Something that may be given once is given again, or two sources are given. -/
  | conflict
  /-- A switch with a value. -/
  | tooManyValues
  deriving DecidableEq, Repr

/-- The exit code of an ending. -/
def Ending.code : Ending → Nat
  | .help | .version => 0
  | _ => 2

/-- The options. -/
inductive Parameter where
  | settings
  | dataset
  | datasets
  | backend
  | configFile
  | configUrl
  | logFile
  deriving DecidableEq, Repr

/-- The switches. -/
inductive Switch where
  | verbose
  | help
  | version
  deriving DecidableEq, Repr

/-- An option or a switch. -/
inductive Flag where
  | parameter (parameter : Parameter)
  | switch (switch : Switch)
  deriving DecidableEq, Repr

/-- The long names. -/
def longNames : List (String × Flag) :=
  [("settings", .parameter .settings), ("dataset", .parameter .dataset),
    ("datasets", .parameter .datasets), ("backend", .parameter .backend),
    ("config-file", .parameter .configFile), ("config-url", .parameter .configUrl),
    ("log-file", .parameter .logFile), ("verbose", .switch .verbose),
    ("help", .switch .help), ("version", .switch .version)]

/-- The short names. -/
def shortNames : List (Char × Flag) :=
  [('s', .parameter .settings), ('d', .parameter .dataset), ('v', .switch .verbose),
    ('h', .switch .help), ('V', .switch .version)]

/-- The arguments read so far, and an option that is not settled, with its value if it has
been found. -/
structure Progress where
  arguments : Arguments := {}
  pending : Option (Parameter × Option String) := none
  deriving DecidableEq, Repr

/-- The values of an argument, separated by commas. -/
def values (value : String) : List String :=
  (value.toList.splitOn ',').map String.ofList

/-- Gives an option that may be given once its value. -/
def once (before : Option String) (value : String) : Except Ending (Option String) :=
  if before.isSome then .error .conflict else .ok (some value)

/-- Gives an option its path, which must not be empty. -/
def path (before : Option String) (value : String) : Except Ending (Option String) := do
  let after ← once before value
  if value.isEmpty then .error .invalidValue
  return after

/-- Gives an option its value. -/
def assign (arguments : Arguments) (parameter : Parameter) (value : String) :
    Except Ending Arguments := do
  let given := arguments.overrides
  match parameter with
  | .settings => return { arguments with settings := ← path arguments.settings value }
  | .dataset =>
    return { arguments with
      overrides := { given with dataset := ← once given.dataset value } }
  | .datasets =>
    return { arguments with
      overrides := { given with datasets := given.datasets ++ values value } }
  | .backend =>
    return { arguments with
      overrides := { given with backend := ← once given.backend value } }
  | .configFile =>
    return { arguments with
      overrides := { given with configFile := ← path given.configFile value } }
  | .configUrl =>
    return { arguments with
      overrides := { given with configUrl := ← once given.configUrl value } }
  | .logFile =>
    return { arguments with
      overrides := { given with logFile := ← path given.logFile value } }

/-- Settles the option that waits. -/
def settle (progress : Progress) : Except Ending Progress := do
  match progress.pending with
  | none => return progress
  | some (_, none) => .error .invalidValue
  | some (parameter, some value) =>
    return { arguments := ← assign progress.arguments parameter value }

/-- Turns a switch. -/
def turn (progress : Progress) (switch : Switch) : Except Ending Progress := do
  let progress ← settle progress
  match switch with
  | .help => .error .help
  | .version => .error .version
  | .verbose =>
    if progress.arguments.verbose then .error .conflict
    return { progress with arguments := { progress.arguments with verbose := true } }

/-- Takes an option with the value that is attached to it, if there is one. -/
def take (progress : Progress) (parameter : Parameter) (attached : Option String) :
    Except Ending Progress := do
  let progress ← settle progress
  match attached with
  | some value => return { arguments := ← assign progress.arguments parameter value }
  | none => return { progress with pending := some (parameter, none) }

/-- The name of a long argument and the value behind its first equals sign. -/
def splitLong (content : List Char) : String × Option String :=
  let name := content.takeWhile (· ≠ '=')
  let value := match content.dropWhile (· ≠ '=') with
    | [] => none
    | _ :: value => some (String.ofList value)
  (String.ofList name, value)

/-- Reads an argument behind its two dashes. -/
def readLong (progress : Progress) (content : List Char) : Except Ending Progress :=
  let (name, value) := splitLong content
  match longNames.lookup name with
  | none => .error .unknownArgument
  | some (.parameter parameter) => take progress parameter value
  | some (.switch switch) =>
    if value.isSome then .error .tooManyValues else turn progress switch

/-- The value attached to an option of one letter, perhaps behind an equals sign. -/
def attached : List Char → Option String
  | [] => none
  | '=' :: value => some (String.ofList value)
  | value => some (String.ofList value)

/-- Reads an argument behind its single dash: switches, and perhaps an option at the end. -/
def readShort (progress : Progress) : List Char → Except Ending Progress
  | [] => .ok progress
  | letter :: rest =>
    match shortNames.lookup letter with
    | none => .error .unknownArgument
    | some (.parameter parameter) => take progress parameter (attached rest)
    | some (.switch switch) => do readShort (← turn progress switch) rest

/-- Reads an argument that is the value of the option that waits. -/
def readValue (progress : Progress) (value : String) : Except Ending Progress :=
  match progress.pending with
  | some (parameter, none) => .ok { progress with pending := some (parameter, some value) }
  | _ => .error .unknownArgument

/-- Reads one argument. A single dash is a value. -/
def readArgument (progress : Progress) (argument : String) : Except Ending Progress :=
  match argument.toList with
  | '-' :: '-' :: content => readLong progress content
  | '-' :: letter :: rest => readShort progress (letter :: rest)
  | _ => readValue progress argument

/-- Reads arguments. Behind two dashes alone nothing may follow. -/
def readAll (progress : Progress) : List String → Except Ending Progress
  | [] => settle progress
  | "--" :: rest => if rest.isEmpty then settle progress else .error .unknownArgument
  | argument :: rest => do readAll (← readArgument progress argument) rest

/-- What a command line asks for. It may name one source of the configuration. -/
def read (arguments : List String) : Except Ending Arguments := do
  let asked := (← readAll {} arguments).arguments
  if asked.overrides.configFile.isSome && asked.overrides.configUrl.isSome then
    .error .conflict
  return asked

end CommandLine

end DatasetPicker
