import DatasetPicker.Selector.Session

/-!
# What one event can change

Only a feed replaces the known values and the listener, and only a feed or a commit changes
what is committed. Every other event passes quietly. A commit has two outcomes, one for a
known value and one for any other.
-/

namespace DatasetPicker.Selector

/-- An event that is neither a feed nor a commit. -/
def Event.isPlain : Event → Bool
  | .setValues .. | .commit _ => false
  | _ => true

/-- The outcome of an event that has no effect and keeps all that feeds and commits decide.
A rejection is kept at least as long as the edit goes on. -/
structure Transition.Quiet (before : Context) (result : Transition) : Prop where
  effects : result.effects = []
  values : result.context.values = before.values
  committed : result.context.committed = before.committed
  listener : result.context.listener = before.listener
  error : result.mode.isEditing = true → result.context.error = before.error

/-- An event that is not accepted passes quietly. -/
theorem ignored_quiet (mode : Mode) (context : Context) :
    (Transition.ignored mode context).Quiet context :=
  ⟨rfl, rfl, rfl, rfl, fun _ => rfl⟩

/-- Moving up changes the text and the highlight only, and drops the completion. -/
theorem moveUp_changes (context : Context) : ∃ value current,
    context.moveUp = { context with value, current, completion := none } := by
  unfold Context.moveUp
  split
  · split
    · exact ⟨_, _, rfl⟩
    · exact ⟨_, _, rfl⟩
  · exact ⟨_, _, rfl⟩

/-- A plain event passes quietly in either mode. -/
theorem transition_quiet (mode : Mode) (context : Context) (event : Event) (fresh : ErrorId)
    (plain : event.isPlain = true) : (transition mode context event fresh).Quiet context := by
  cases mode with
  | reading =>
    cases event with
    | setValues value values listener => contradiction
    | commit value => contradiction
    | edit => exact ⟨rfl, rfl, rfl, rfl, fun _ => rfl⟩
    | _ => exact ignored_quiet .reading context
  | editing input results =>
    cases event with
    | setValues value values listener => contradiction
    | commit value => contradiction
    | edit => exact ignored_quiet _ context
    | previousResult =>
      obtain ⟨value, current, moved⟩ := moveUp_changes context
      simp only [transition, moved]
      exact ⟨rfl, rfl, rfl, rfl, fun _ => rfl⟩
    | blur => exact ⟨rfl, rfl, rfl, rfl, fun editing => by contradiction⟩
    | _ => exact ⟨rfl, rfl, rfl, rfl, fun _ => rfl⟩

/-- A known value is accepted, and the effect tells whether it is a new choice. -/
theorem commit_known (mode : Mode) (context : Context) (value : String) (fresh : ErrorId)
    (known : value ∈ context.values) :
    commit mode context value fresh =
      { mode := .reading
        context := context.accept value
        effects := if value = context.committed then [] else [.committed value] } := by
  rw [commit, if_pos (List.contains_iff_mem.mpr known)]

/-- Any other value is refused, and only the error of the context changes. -/
theorem commit_unknown (mode : Mode) (context : Context) (value : String) (fresh : ErrorId)
    (unknown : value ∉ context.values) :
    commit mode context value fresh =
      { mode
        context := { context with error := some ⟨fresh, value⟩ }
        effects := [.rejected ⟨fresh, value⟩] } := by
  rw [commit, if_neg (mt List.contains_iff_mem.mp unknown)]

/-- A commit keeps the known values, whatever comes of it. -/
theorem transition_commit_values (mode : Mode) (context : Context) (value : String)
    (fresh : ErrorId) :
    (transition mode context (.commit value) fresh).context.values = context.values := by
  cases mode with
  | reading => rfl
  | editing input results =>
    simp only [transition, commit]
    split <;> rfl

end DatasetPicker.Selector
