import DatasetPicker.Proofs.Selector.Choice

/-!
# What is remembered of the pointer

A session is told when the pointer enters and leaves the results, and takes it to be where it
was told last. Nothing else moves it: an edit begins with the pointer elsewhere, and what was
told is kept as long as the edit goes on, whatever becomes of the results.
-/

namespace DatasetPicker.Selector

namespace Mode

/-- The pointer is over the results of an edit only. -/
theorem hovering_editing (mode : Mode) : mode.isHovering = (mode.isEditing && mode.isHovering) := by
  cases mode with
  | reading => rfl
  | editing input results => exact (Bool.true_and _).symm

end Mode

/-- An edit that goes on keeps what was told of the pointer, unless that is what is told. -/
theorem transition_hovering (mode : Mode) (context : Context) (event : Event) (fresh : ErrorId)
    (silent : (Operation.send event).isPointing = false) :
    (transition mode context event fresh).mode.isHovering =
      ((transition mode context event fresh).mode.isEditing && mode.isHovering) := by
  cases mode with
  | reading => cases event <;> rfl
  | editing input results =>
    cases event with
    | enterResults => contradiction
    | leaveResults => contradiction
    | commit value =>
      simp only [transition, commit]
      split <;> rfl
    | _ => cases results <;> rfl

namespace Session

variable (session : Session) (fresh : ErrorId)

/-- In an edit the pointer is taken to be where it was told to be, and the edit goes on. -/
theorem send_pointing (inside : Bool) (editing : session.mode.isEditing = true) :
    let told := (session.send (if inside then .enterResults else .leaveResults) fresh).session.mode
    told.isHovering = inside ∧ told.isEditing = true := by
  obtain ⟨mode, context⟩ := session
  cases mode with
  | reading => contradiction
  | editing input results => cases inside <;> exact ⟨rfl, rfl⟩

/-- An event other than those of the pointer keeps what was told of it while the edit goes on. -/
theorem send_hovering (event : Event) (silent : (Operation.send event).isPointing = false) :
    (session.send event fresh).session.mode.isHovering =
      ((session.send event fresh).session.mode.isEditing && session.mode.isHovering) :=
  transition_hovering session.mode session.context event fresh silent

/-- An operation other than those of the pointer keeps what was told of it while the edit
goes on. -/
theorem perform_hovering (operation : Operation) (silent : operation.isPointing = false) :
    (session.perform operation fresh).session.mode.isHovering =
      ((session.perform operation fresh).session.mode.isEditing && session.mode.isHovering) := by
  unfold perform
  cases operation with
  | send event => exact session.send_hovering fresh event silent
  | unfocus =>
    obtain ⟨mode, context⟩ := session
    cases mode with
    | reading => rfl
    | editing input results => cases results <;> rfl
  | select index =>
    rw [events]
    cases session.context.results[index]? with
    | none => exact session.mode.hovering_editing
    | some name => exact session.send_hovering fresh (.commit name) rfl
  | complete =>
    rw [events]
    cases session.context.completion with
    | none => exact session.mode.hovering_editing
    | some completion => exact session.send_hovering fresh (.change completion.value) rfl
  | submit => exact session.send_hovering fresh (.commit session.context.value) rfl
  | typeText text =>
    obtain ⟨mode, context⟩ := session
    cases mode with
    | reading => rfl
    | editing input results => cases input <;> cases results <;> rfl

end Session

end DatasetPicker.Selector
