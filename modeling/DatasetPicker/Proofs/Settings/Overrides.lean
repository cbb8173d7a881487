import DatasetPicker.Program
import DatasetPicker.Proofs.Settings.Validation

/-!
# Overrides over settings

The settings of a run are the only ones that say of each setting what the command line says, or
else what the file says, and that have the source of the configuration of the command line alone
if it names one. They are refused exactly if something is wrong with them, whatever is wrong with
the file alone.
-/

namespace DatasetPicker

namespace Overrides

/-- At most one source of the configuration is given. -/
def OneSource (overrides : Overrides) : Prop :=
  ¬ (overrides.configFile.isSome = true ∧ overrides.configUrl.isSome = true)

/-- Settings say what the overrides say, and else what the base says. -/
structure Governs (overrides : Overrides) (base settings : Settings) : Prop where
  dataset : settings.dataset = overrides.dataset.getD base.dataset
  datasets :
    settings.datasets = if overrides.datasets = [] then base.datasets else overrides.datasets
  backend : settings.backend = overrides.backend.or base.backend
  logFile : settings.logFile = overrides.logFile.or base.logFile
  file : ∀ path, overrides.configFile = some path →
    settings.configFile = some path ∧ settings.configUrl = none
  server : ∀ url, overrides.configUrl = some url →
    settings.configFile = none ∧ settings.configUrl = some url
  unnamed : overrides.configFile = none → overrides.configUrl = none →
    settings.configFile = base.configFile ∧ settings.configUrl = base.configUrl
  title : settings.title = base.title
  queryTimeout : settings.queryTimeout = base.queryTimeout
  errorTimeout : settings.errorTimeout = base.errorTimeout
  links : settings.links = base.links

variable {overrides : Overrides} {base : Settings}

/-- The merged settings are governed by the overrides. -/
theorem merge_governs (single : overrides.OneSource) :
    overrides.Governs base (overrides.merge base) where
  dataset := rfl
  datasets := by simp only [merge, List.isEmpty_iff]
  backend := rfl
  logFile := rfl
  file := by
    intro path given
    have alone : overrides.configUrl = none := by simpa [OneSource, given] using single
    simp [merge, configFileOver, configUrlOver, given, alone]
  server := by
    intro url given
    simp [merge, configFileOver, configUrlOver, given]
  unnamed := by
    intro noFile noUrl
    simp [merge, configFileOver, configUrlOver, noFile, noUrl]
  title := rfl
  queryTimeout := rfl
  errorTimeout := rfl
  links := rfl

/-- Overrides leave no choice of the sources. -/
theorem Governs.sources {settings other : Settings} (governs : overrides.Governs base settings)
    (also : overrides.Governs base other) :
    settings.configFile = other.configFile ∧ settings.configUrl = other.configUrl := by
  cases file : overrides.configFile with
  | some path =>
    obtain ⟨fileHere, urlHere⟩ := governs.file path file
    obtain ⟨fileThere, urlThere⟩ := also.file path file
    exact ⟨fileHere.trans fileThere.symm, urlHere.trans urlThere.symm⟩
  | none =>
    cases server : overrides.configUrl with
    | some url =>
      obtain ⟨fileHere, urlHere⟩ := governs.server url server
      obtain ⟨fileThere, urlThere⟩ := also.server url server
      exact ⟨fileHere.trans fileThere.symm, urlHere.trans urlThere.symm⟩
    | none =>
      obtain ⟨fileHere, urlHere⟩ := governs.unnamed file server
      obtain ⟨fileThere, urlThere⟩ := also.unnamed file server
      exact ⟨fileHere.trans fileThere.symm, urlHere.trans urlThere.symm⟩

/-- Overrides leave no choice. -/
theorem Governs.unique {settings other : Settings} (governs : overrides.Governs base settings)
    (also : overrides.Governs base other) : settings = other := by
  obtain ⟨files, urls⟩ := governs.sources also
  cases settings
  cases other
  simp only [Settings.mk.injEq]
  exact ⟨governs.title.trans also.title.symm, governs.datasets.trans also.datasets.symm,
    governs.dataset.trans also.dataset.symm, governs.backend.trans also.backend.symm, files, urls,
    governs.queryTimeout.trans also.queryTimeout.symm,
    governs.errorTimeout.trans also.errorTimeout.symm,
    governs.logFile.trans also.logFile.symm, governs.links.trans also.links.symm⟩

/-- Merged settings are used unless something is wrong with them. -/
theorem resolve_eq (overrides : Overrides) (base : Settings) :
    overrides.resolve base =
      (overrides.merge base).validate.map fun _ => overrides.merge base := by
  cases judged : (overrides.merge base).validate with
  | error failure =>
    simp only [resolve, judged]
    rfl
  | ok =>
    simp only [resolve, judged]
    rfl

/-- Whatever is given, what is wrong with the merged settings is told. -/
theorem resolve_eq_error_iff (overrides : Overrides) (base : Settings) (failure : Failure) :
    overrides.resolve base = .error failure ↔
      (overrides.merge base).validate = .error failure := by
  rw [resolve_eq]
  cases (overrides.merge base).validate <;> simp [Except.map]

/-- If nothing is wrong with them, the merged settings are used. -/
theorem resolve_eq_ok_iff (overrides : Overrides) (base settings : Settings) :
    overrides.resolve base = .ok settings ↔
      (overrides.merge base).validate = .ok () ∧ settings = overrides.merge base := by
  rw [resolve_eq]
  cases (overrides.merge base).validate <;> simp [Except.map, eq_comm]

/-- Accepted settings have at most one source. -/
theorem oneSource_of_validate {settings : Settings} (accepted : settings.validate = .ok ()) :
    ¬ (settings.configFile.isSome = true ∧ settings.configUrl.isSome = true) := by
  obtain ⟨-, reason, refused⟩ | ⟨sound, -, -⟩ | ⟨sound, -, -⟩ := settings.validate_cases
  · rw [accepted] at refused
    contradiction
  · exact sound.oneSource
  · exact sound.oneSource

/-- The settings of a run are resolved from those of the file, or else from the defaults. -/
theorem program_settings {around : Surroundings} {arguments : Arguments} {base : Settings}
    (loaded : arguments.settings.elim (.ok {}) around.settings = .ok base) :
    Program.settings around arguments = arguments.overrides.resolve base := by
  unfold Program.settings
  cases file : arguments.settings with
  | none =>
    rw [file] at loaded
    cases loaded
    rfl
  | some path =>
    rw [file] at loaded
    change around.settings path = .ok base at loaded
    simp only [loaded]
    rfl

/-- Overrides that name at most one source are given, and any settings to put them over. Then there
is just one way to be governed by both, and a run with this file, or without one on the defaults,
gets just these settings, or fails with what is wrong with them. What it gets has at most one
source, and a source that the overrides name is the one that is asked. -/
theorem resolve_governs (overrides : Overrides) (base : Settings)
    (single : overrides.OneSource) :
    ∃ merged, (∀ settings, overrides.Governs base settings ↔ settings = merged) ∧
      (∀ failure, overrides.resolve base = .error failure ↔ merged.validate = .error failure) ∧
      (∀ settings, overrides.resolve base = .ok settings ↔
        merged.validate = .ok () ∧ settings = merged) ∧
      (merged.validate = .ok () →
        ¬ (merged.configFile.isSome = true ∧ merged.configUrl.isSome = true)) ∧
      (∀ path, overrides.configFile = some path → merged.origin = .file path) ∧
      (∀ url, overrides.configUrl = some url → merged.origin = .server url) ∧
      ∀ around arguments, arguments.overrides = overrides →
        arguments.settings.elim (.ok {}) around.settings = .ok base →
        Program.settings around arguments = overrides.resolve base := by
  have governs : overrides.Governs base (overrides.merge base) := merge_governs single
  refine ⟨overrides.merge base, ?_, overrides.resolve_eq_error_iff base,
    overrides.resolve_eq_ok_iff base, oneSource_of_validate, ?_, ?_, ?_⟩
  · intro settings
    constructor
    · exact fun also => also.unique governs
    · rintro rfl
      exact governs
  · intro path given
    obtain ⟨file, -⟩ := governs.file path given
    rw [Settings.origin, file]
  · intro url given
    obtain ⟨file, server⟩ := governs.server url given
    rw [Settings.origin, file, server]
  · rintro around arguments rfl loaded
    exact program_settings loaded

/-- A file that names both sources, and a dataset that the command line does not list, is put right
by a server, a list and a dataset on the command line. -/
theorem resolve_governs_two_in_file :
    let overrides : Overrides :=
      { dataset := some "b", datasets := ["a", "b"], configUrl := some "http://h" }
    let base : Settings :=
      { title := "T", datasets := ["x"], dataset := "y", configFile := some "f",
        configUrl := some "http://g" }
    overrides.OneSource ∧ base.validate ≠ .ok () ∧
      ∃ settings, overrides.resolve base = .ok settings ∧ settings.origin = .server "http://h" ∧
        settings.configFile = none ∧ settings.title = "T" ∧ settings.dataset = "b" := by
  intro overrides base
  have single : overrides.OneSource := by
    rintro ⟨file, -⟩
    contradiction
  have wrong : base.validate ≠ .ok () := nofun
  obtain ⟨merged, only, -, resolved, -, -, server, -⟩ := resolve_governs overrides base single
  have governs := (only merged).mpr rfl
  have accepted : merged.validate = .ok () := by
    rw [← (only (overrides.merge base)).mp (merge_governs single)]
    rfl
  exact ⟨single, wrong, merged, (resolved merged).mpr ⟨accepted, rfl⟩, server _ rfl,
    (governs.server _ rfl).1, governs.title, governs.dataset⟩

end Overrides

/-- A command line that is read names at most one source. -/
theorem CommandLine.read_oneSource {line : List String} {arguments : Arguments}
    (asked : CommandLine.read line = .ok arguments) : arguments.overrides.OneSource := by
  unfold CommandLine.read at asked
  cases progress : readAll {} line with
  | error ending =>
    rw [progress] at asked
    contradiction
  | ok progress =>
    rw [progress] at asked
    simp only [bind, Except.bind] at asked
    split at asked
    · contradiction
    · rename_i one
      cases asked
      simpa [Overrides.OneSource] using one

end DatasetPicker
