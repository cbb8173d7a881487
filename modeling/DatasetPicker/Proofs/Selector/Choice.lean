import DatasetPicker.Proofs.Selector.Operation

/-!
# Choosing and leaving

An edit ends in one of two ways: a known value is accepted, or the edit is abandoned. Leaving
the input abandons the edit only while the pointer is not taken to be over the results; else
the edit goes on without the focus.
-/

namespace DatasetPicker.Selector

/-- The reaction of an accepted value: the edit ends with it, no id is used up, and the
listener is told if it is another one than before. -/
structure Reaction.Accepts (before : Context) (value : String) (fresh : ErrorId)
    (reaction : Reaction) : Prop where
  ended : reaction.session = ⟨.reading, before.accept value⟩
  unused : reaction.fresh = fresh
  effects : reaction.effects = if value = before.committed then [] else [.committed value]
  told : reaction.told =
    if value = before.committed then [] else (before.listener.map (·, value)).toList

/-- The reaction of an operation that nobody is told of. -/
structure Reaction.Silent (after : Session) (fresh : ErrorId) (reaction : Reaction) :
    Prop where
  session : reaction.session = after
  unused : reaction.fresh = fresh
  effects : reaction.effects = []
  told : reaction.told = []

namespace Session

variable (session : Session) (fresh : ErrorId)

/-- A commit of a known value is accepted. -/
theorem send_commit_accepts (value : String) (editing : session.mode.isEditing = true)
    (known : value ∈ session.context.values) :
    (session.send (.commit value) fresh).Accepts session.context value fresh := by
  obtain ⟨ended, effects⟩ := send_commit_known session value fresh editing known
  by_cases same : value = session.context.committed
  · subst same
    have quiet := send_commit_same session fresh editing known
    refine ⟨ended, quiet.fresh, effects, ?_⟩
    rw [if_pos rfl]
    exact quiet.told
  · obtain ⟨-, unused, -, told⟩ := send_commit_changed session value fresh editing known same
    refine ⟨ended, unused, effects, ?_⟩
    rw [if_neg same]
    exact told

/-- Selecting a result that is a known value accepts it. -/
theorem perform_select (index : Nat) (name : String)
    (editing : session.mode.isEditing = true)
    (listed : session.context.results[index]? = some name)
    (known : name ∈ session.context.values) :
    (session.perform (.select index) fresh).Accepts session.context name fresh := by
  have only : session.events (.select index) = [.commit name] := by
    rw [events, listed]
    rfl
  rw [perform, only, sendAll_one]
  exact send_commit_accepts session fresh name editing known

/-- Leaving the input while the pointer is elsewhere abandons the edit. -/
theorem perform_unfocus_elsewhere (editing : session.mode.isEditing = true)
    (elsewhere : session.mode.isHovering = false) :
    (session.perform .unfocus fresh).Silent ⟨.reading, session.context.abandon⟩ fresh := by
  obtain ⟨mode, context⟩ := session
  cases mode with
  | reading => contradiction
  | editing input results =>
    cases results with
    | hovering => contradiction
    | notHovering => cases input <;> exact ⟨rfl, rfl, rfl, rfl⟩

/-- Leaving the input while the pointer is over the results takes the focus away and nothing
else. -/
theorem perform_unfocus_hovering (hovering : session.mode.isHovering = true) :
    (session.perform .unfocus fresh).Silent
      { session with mode := .editing .unfocused .hovering } fresh := by
  obtain ⟨mode, context⟩ := session
  cases mode with
  | reading => contradiction
  | editing input results =>
    cases results with
    | hovering => cases input <;> exact ⟨rfl, rfl, rfl, rfl⟩
    | notHovering => contradiction

end Session

end DatasetPicker.Selector
