import DatasetPicker.Settings.Basic

/-!
# Overrides

What is given on the command line goes before what the settings file says. A source of the
configuration that is given replaces any source of the file, so that there is one source.
-/

namespace DatasetPicker

/-- The settings that the command line can give. -/
structure Overrides where
  dataset : Option String := none
  /-- The known datasets, none if they are not given. -/
  datasets : List String := []
  backend : Option String := none
  configFile : Option String := none
  configUrl : Option String := none
  logFile : Option String := none
  deriving DecidableEq, Repr

namespace Overrides

/-- The saved response, unless a server is given. -/
def configFileOver (overrides : Overrides) (settings : Settings) : Option String :=
  if overrides.configUrl.isSome then none else overrides.configFile.or settings.configFile

/-- The server, unless only a saved response is given. -/
def configUrlOver (overrides : Overrides) (settings : Settings) : Option String :=
  overrides.configUrl.or
    (if overrides.configFile.isSome then none else settings.configUrl)

/-- Puts the overrides over settings. -/
def merge (overrides : Overrides) (settings : Settings) : Settings :=
  { settings with
    datasets :=
      if overrides.datasets.isEmpty then settings.datasets else overrides.datasets
    dataset := overrides.dataset.getD settings.dataset
    backend := overrides.backend.or settings.backend
    configFile := overrides.configFileOver settings
    configUrl := overrides.configUrlOver settings
    logFile := overrides.logFile.or settings.logFile }

/-- The settings to use: those with the overrides, if nothing is wrong with them. -/
def resolve (overrides : Overrides) (settings : Settings) : Except Failure Settings := do
  let merged := overrides.merge settings
  merged.validate
  return merged

end Overrides

end DatasetPicker
