import DatasetPicker.Proofs.App.Reduce

/-!
# Rejections and the timer

An operation of the selector either leaves the rejection that is shown alone, or ends the
edit and hides it, or shows a new one. The effects say which: nothing is asked of the timer,
the timer is disarmed, or it is armed for the new rejection.
-/

namespace DatasetPicker.App

open Selector (CommitError Operation)

/-- The rejection that is shown. -/
def shown (app : App) : Option CommitError := app.header.visibleError

/-- What an operation does about rejections. -/
inductive Operated (app : App) (reduction : Reduction) : Prop where
  | leaves (unused : reduction.app.fresh = app.fresh) (shown : reduction.app.shown = app.shown)
      (kept : ∀ error, app.shown = some error →
        app.header.session.context.error = some error →
          isEditing reduction.app = true ∧
            reduction.app.header.session.context.error = some error)
      (effects : reduction.effects = [.render])
  | ends (unused : reduction.app.fresh = app.fresh) (hidden : reduction.app.shown = none)
      (ended : isEditing reduction.app = false)
      (effects : reduction.effects = [.render, .cancel errorTimer])
  | refuses (error : CommitError) (issued : error.id = app.fresh)
      (used : reduction.app.fresh = app.fresh.next) (shown : reduction.app.shown = some error)
      (editing : isEditing reduction.app = true)
      (marked : reduction.app.header.session.context.error = some error)
      (effects : reduction.effects =
        [.render, .debounce errorTimer app.errorTimeout (.expireError error.id)])

/-- The effects of an operation, from those of the selector. -/
theorem operate_effects (app : App) (operation : Operation) :
    (operate app operation).effects =
      .render ::
        timers app.errorTimeout (app.header.perform operation app.fresh).effects ++
          (if app.shown.isSome && (operate app operation).app.shown.isNone then
            [.cancel errorTimer]
          else []) := rfl

/-- The rejection that is shown after an operation. -/
theorem operate_shown (app : App) (operation : Operation) :
    (operate app operation).app.shown =
      if isEditing (operate app operation).app then
        Header.shown app.shown (app.header.session.perform operation app.fresh).effects
      else none := rfl

/-- An operation after which nothing is edited hides the rejection, if there is one, and
disarms the timer. -/
theorem operate_ended (app : App) (operation : Operation)
    (unused : (operate app operation).app.fresh = app.fresh)
    (silent : timers app.errorTimeout (app.header.perform operation app.fresh).effects = [])
    (ended : isEditing (operate app operation).app = false) :
    Operated app (operate app operation) := by
  have effects := operate_effects app operation
  have after := operate_shown app operation
  simp only [ended, Bool.false_eq_true, ↓reduceIte] at after
  rw [silent, after] at effects
  cases before : app.shown with
  | none =>
    refine .leaves unused (after.trans before.symm) ?_ ?_
    · intro error shown
      rw [before] at shown
      contradiction
    · rw [effects, before]
      rfl
  | some error =>
    refine .ends unused after ended ?_
    rw [effects, before]
    rfl

/-- An operation without effects leaves the rejection alone or ends the edit. -/
theorem operate_quiet (app : App) (operation : Operation)
    (quiet : (app.header.session.perform operation app.fresh).Quiet
      app.header.session.context app.fresh) :
    Operated app (operate app operation) := by
  have silent :
      timers app.errorTimeout (app.header.perform operation app.fresh).effects = [] := by
    rw [Header.perform_effects, quiet.effects]
    rfl
  cases editing : isEditing (operate app operation).app with
  | false => exact operate_ended app operation quiet.fresh silent editing
  | true =>
    have effects := operate_effects app operation
    have after := operate_shown app operation
    rw [if_pos editing, quiet.effects] at after
    refine .leaves quiet.fresh after ?_ ?_
    · intro error _ marked
      exact ⟨editing, (quiet.error editing).trans marked⟩
    · rw [effects, silent, after]
      cases app.shown <;> rfl

/-- Every operation that is not a feed does one of the three things about rejections. -/
theorem operate_rejection (app : App) (operation : Operation)
    (feed : operation.isFeed = false) : Operated app (operate app operation) := by
  cases app.header.session.perform_course operation app.fresh feed with
  | passes quiet => exact operate_quiet app operation quiet
  | chooses value known changed ended unused made told =>
    have silent :
        timers app.errorTimeout (app.header.perform operation app.fresh).effects = [] := by
      rw [Header.perform_effects, made]
      rfl
    have reading : isEditing (operate app operation).app = false := by
      change (app.header.session.perform operation app.fresh).session.mode.isEditing = false
      rw [ended]
      rfl
    exact operate_ended app operation unused silent reading
  | refuses value editing marked used made told =>
    have effects := operate_effects app operation
    have after := operate_shown app operation
    have still : isEditing (operate app operation).app = true := by
      change (app.header.session.perform operation app.fresh).session.mode.isEditing = true
      rw [marked]
      exact editing
    rw [if_pos still, made] at after
    refine .refuses ⟨app.fresh, value⟩ rfl used after still ?_ ?_
    · change (app.header.session.perform operation app.fresh).session.context.error = _
      rw [marked]
    · rw [effects, Header.perform_effects, made, after]
      cases app.shown <;> rfl

/-- A rejection is among the effects of an operation exactly when it has the next id, that id
is used up, and the context is left with the rejection. -/
theorem operate_rejected_iff (app : App) (operation : Operation)
    (feed : operation.isFeed = false) (error : CommitError) :
    .rejected error ∈ (app.header.perform operation app.fresh).effects ↔
      error.id = app.fresh ∧ (operate app operation).app.fresh = app.fresh.next ∧
        (operate app operation).app.header.session.context.error = some error := by
  have fresh : (operate app operation).app.fresh =
      (app.header.session.perform operation app.fresh).fresh := rfl
  rw [Header.perform_effects, fresh]
  cases app.header.session.perform_course operation app.fresh feed with
  | passes quiet =>
    rw [quiet.effects, quiet.fresh]
    exact ⟨nofun, fun used => absurd used.2.1 app.fresh.ne_next⟩
  | chooses value known changed ended unused made told =>
    rw [made, unused]
    exact ⟨nofun, fun used => absurd used.2.1 app.fresh.ne_next⟩
  | refuses value editing marked used made told =>
    have context : (operate app operation).app.header.session.context.error =
        some ⟨app.fresh, value⟩ := by
      change (app.header.session.perform operation app.fresh).session.context.error = _
      rw [marked]
    rw [made, used, context, List.mem_singleton]
    constructor
    · intro same
      obtain rfl := Selector.Effect.rejected.inj same
      exact ⟨rfl, rfl, rfl⟩
    · rintro ⟨-, -, same⟩
      exact congrArg Selector.Effect.rejected (Option.some.inj same).symm

end DatasetPicker.App
