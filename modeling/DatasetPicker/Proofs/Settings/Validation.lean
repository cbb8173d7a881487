import DatasetPicker.Program

/-!
# Accepted settings

Settings are accepted exactly if they are sound and select nothing or a known dataset. The names
of the datasets are gathered up to their first fault, and the selected one is looked up among them:
without a fault they are all the names. A header on accepted settings begins with just the
selection that they name.
-/

namespace DatasetPicker

namespace Settings

/-- Nothing is wrong with settings, their selected dataset apart. -/
structure Sound (settings : Settings) : Prop where
  oneSource : ¬ (settings.configFile.isSome = true ∧ settings.configUrl.isSome = true)
  shown : 0 < settings.errorTimeout
  named : ∀ name ∈ settings.datasets, name ≠ ""
  distinct : settings.datasets.Nodup

/-- The selected dataset is none or a known one. -/
def SelectsKnown (settings : Settings) : Prop :=
  settings.dataset = "" ∨ settings.dataset ∈ settings.datasets

/-! ## Faults -/

/-- The names of a list are gathered if none is empty, repeated or gathered before, and then all
of them are. -/
theorem gather_eq_ok_iff (before names gathered : List String) :
    gather before names = .ok gathered ↔
      ((∀ name ∈ names, name ≠ "") ∧ names.Nodup ∧ ∀ name ∈ names, name ∉ before) ∧
        gathered = names.reverse ++ before := by
  induction names generalizing before with
  | nil => simp [gather, eq_comm]
  | cons name rest ih =>
    rw [gather]
    by_cases nameless : name = ""
    · simp [nameless]
    · by_cases listed : name ∈ before
      · simp [nameless, listed]
      · -- The names before the rest are those before the list and the first of it.
        simp only [String.isEmpty_iff, nameless, ↓reduceIte, List.contains_eq_mem, listed,
          decide_false, Bool.false_eq_true, ih, List.mem_cons, not_or, List.nodup_cons,
          List.reverse_cons, List.append_assoc, List.singleton_append]
        grind

/-- The fault of a list of names is a fault of the settings as such. -/
theorem gather_failure {before names : List String} {fault : Fault}
    (found : gather before names = .error fault) :
    ∃ reason, fault.failure = .settings reason := by
  induction names generalizing before with
  | nil => contradiction
  | cons name rest ih =>
    rw [gather] at found
    split at found
    · cases found
      exact ⟨_, rfl⟩
    · split at found
      · cases found
        exact ⟨_, rfl⟩
      · exact ih found

variable (settings : Settings)

/-- Settings that are not sound have a fault as such, and of sound settings only the selected
dataset is in question: it is looked up among the names that were gathered, which are the names
that are listed. -/
theorem fault?_cases :
    (¬ settings.Sound ∧ ∃ fault reason,
      settings.fault? = some fault ∧ fault.failure = .settings reason) ∨
    (settings.Sound ∧ ∃ known, (∀ name, name ∈ known ↔ name ∈ settings.datasets) ∧
      settings.fault? = settings.selectionFault? known) := by
  unfold fault?
  by_cases two : settings.configFile.isSome = true ∧ settings.configUrl.isSome = true
  · exact .inl ⟨fun sound => sound.oneSource two, _, _, if_pos (by simpa using two), rfl⟩
  rw [if_neg (by simpa using two)]
  by_cases none : settings.errorTimeout = 0
  · exact .inl ⟨fun sound => Nat.ne_of_gt sound.shown none, _, _, if_pos none, rfl⟩
  rw [if_neg none]
  have names := gather_eq_ok_iff [] settings.datasets
  cases found : gather [] settings.datasets with
  | error fault =>
    left
    obtain ⟨reason, told⟩ := gather_failure found
    refine ⟨?_, fault, reason, rfl, told⟩
    intro sound
    have faultless := (names _).mpr ⟨⟨sound.named, sound.distinct, by simp⟩, rfl⟩
    exact nomatch found.symm.trans faultless
  | ok known =>
    right
    obtain ⟨⟨named, distinct, -⟩, rfl⟩ := (names known).mp found
    exact ⟨⟨two, Nat.pos_of_ne_zero none, named, distinct⟩, _, by simp, rfl⟩

/-- Settings that are not sound are refused as such. Sound settings are accepted if they select
none or a known dataset, and else this dataset is told to be unknown. -/
theorem validate_cases :
    (¬ settings.Sound ∧ ∃ reason, settings.validate = .error (.settings reason)) ∨
    (settings.Sound ∧ settings.SelectsKnown ∧ settings.validate = .ok ()) ∨
    (settings.Sound ∧ ¬ settings.SelectsKnown ∧
      settings.validate = .error (.unknownDataset settings.dataset)) := by
  unfold validate
  obtain ⟨unsound, fault, reason, found, told⟩ | ⟨sound, gathered, complete, found⟩ :=
    settings.fault?_cases
  · rw [found]
    exact .inl ⟨unsound, reason, congrArg Except.error told⟩
  · right
    rw [found, selectionFault?]
    by_cases known : settings.SelectsKnown
    · left
      rw [if_pos (by simpa [SelectsKnown, complete] using known)]
      exact ⟨sound, known, rfl⟩
    · right
      rw [if_neg (by simpa [SelectsKnown, complete] using known)]
      exact ⟨sound, known, rfl⟩

/-! ## The header -/

/-- A header on settings begins with their feed. -/
theorem header_session (backend : Backend) :
    (Program.header settings backend).header.session =
      ⟨.reading, .feed settings.dataset settings.datasets (some .server)⟩ := rfl

/-- A feed whose active value is none or a known one selects it. -/
theorem feed_of_selectsKnown (known : settings.SelectsKnown)
    (listener : Option Selector.Listener) :
    Selector.Context.feed settings.dataset settings.datasets listener =
      { values := settings.datasets
        value := settings.dataset
        committed := settings.dataset
        previous := settings.dataset
        listener } := by
  have selected : (settings.dataset.isEmpty || settings.datasets.contains settings.dataset) =
      true := by
    simpa [SelectsKnown] using known
  simp only [Selector.Context.feed, selected, if_true]

/-- Settings are accepted exactly if they have at most one source, show rejections for some time,
name all their datasets, each once, and select none or one of these. If only the selection is
wrong, the dataset is told to be unknown, and anything else is refused as such. A header on
accepted settings has the dataset that they name as its committed one and as its text, and their
datasets as its candidates. -/
theorem validate_decides (backend : Backend) :
    (settings.validate = .ok () ↔ settings.Sound ∧ settings.SelectsKnown) ∧
    (settings.validate = .error (.unknownDataset settings.dataset) ↔
      settings.Sound ∧ ¬ settings.SelectsKnown) ∧
    ((∃ reason, settings.validate = .error (.settings reason)) ↔ ¬ settings.Sound) ∧
    (settings.validate = .ok () →
      let context := (Program.header settings backend).header.session.context
      context.committed = settings.dataset ∧ context.value = settings.dataset ∧
        context.values = settings.datasets) := by
  obtain ⟨unsound, reason, refused⟩ | ⟨sound, known, accepted⟩ | ⟨sound, unknown, refused⟩ :=
    settings.validate_cases
  · simp [refused, unsound]
  · rw [header_session, feed_of_selectsKnown settings known]
    simp [accepted, sound, known]
  · simp [refused, sound, unknown]

end Settings

end DatasetPicker
