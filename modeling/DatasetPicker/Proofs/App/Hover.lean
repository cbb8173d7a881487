import DatasetPicker.Proofs.App.Click
import DatasetPicker.Proofs.Selector.Pointing

/-!
# Clicks elsewhere

A click on neither the logo nor a result nor the selector leaves the input. Whether this
abandons the edit depends on where the pointer was when it last moved during the edit, and on
the results that were listed then. The results can be others by the time of the click: below a
list that became shorter under a pointer at rest, a click does not abandon the edit.
-/

namespace DatasetPicker

namespace App

variable (app : App)

/-- The pointer is taken to be over the results. -/
def isHovering : Bool := app.header.session.mode.isHovering

/-- The pointer is taken to be over the results during an edit only. -/
theorem hovering_editing : app.isHovering = (isEditing app && app.isHovering) :=
  app.header.session.mode.hovering_editing

/-- Whether the pointer is over the results after a command: a move decides it, and any other
command leaves it where it was. -/
def pointed (inside : Bool) : Command → Bool
  | .pointer ⟨.moved, _, row⟩ => (app.layout.resultAt? row).isSome
  | _ => inside

/-- Only a move decides where the pointer is. -/
theorem pointed_still (inside : Bool) (command : Command) (still : command.isMove = false) :
    app.pointed inside command = inside := by
  unfold pointed
  split
  · contradiction
  · rfl

/-- A move in an edit that tells of no change finds the pointer where it was. -/
theorem pointerMoved_editing (row : Nat) (editing : isEditing app = true) :
    pointerMoved app row =
      if (app.layout.resultAt? row).isSome = app.isHovering then unchanged app
      else dispatch app
        (if (app.layout.resultAt? row).isSome then .enterResults else .leaveResults) := by
  rw [pointerMoved, if_pos editing, isHovering]
  cases (app.layout.resultAt? row).isSome <;> cases app.header.session.mode.isHovering <;> rfl

/-- After a move the pointer is taken to be over the results if it is on the row of one. -/
theorem pointerMoved_hovering (row : Nat) :
    isHovering (pointerMoved app row).app =
      (isEditing (pointerMoved app row).app && (app.layout.resultAt? row).isSome) := by
  by_cases editing : isEditing app = true
  · rw [app.pointerMoved_editing row editing]
    split
    · rename_i same
      rw [same]
      exact app.hovering_editing
    · obtain ⟨inside, goes_on⟩ := app.header.session.send_pointing app.fresh
        (app.layout.resultAt? row).isSome editing
      exact inside.trans (congrArg (· && _) goes_on).symm
  · rw [pointerMoved, if_neg editing]
    have reading : isEditing app = false := eq_false_of_ne_true editing
    change app.isHovering = (isEditing app && _)
    rw [hovering_editing, reading, Bool.false_and, Bool.false_and]

/-- While the edit goes on, a command leaves the pointer where it was, unless it is a move. -/
theorem reduce_hovering (command : Command) :
    isHovering (reduce app command).app =
      (isEditing (reduce app command).app && app.pointed app.isHovering command) := by
  by_cases moves : command.isMove = true
  · unfold Command.isMove at moves
    split at moves
    · exact app.pointerMoved_hovering _
    · contradiction
  · have still := eq_false_of_ne_true moves
    rw [app.pointed_still _ _ still]
    cases reduce_course app command with
    | operates operation feed does points =>
      have silent : operation.isPointing = false := eq_false_of_ne_true (mt points moves)
      rw [does]
      exact app.header.session.perform_hovering app.fresh operation silent
    | refreshes does =>
      obtain ⟨store, source, palette, changed⟩ := refresh_changes app
      rw [does, changed]
      exact app.hovering_editing
    | exits does => rw [does]; exact app.hovering_editing
    | expires id asked does =>
      rw [does, Header.expireError_header]
      exact app.hovering_editing
    | rests does => rw [does]; exact app.hovering_editing

/-- A click on no part of the view leaves the input. -/
theorem click_elsewhere (column row : Nat) (editing : isEditing app = true)
    (logo : app.layout.hitsLogo column row = false)
    (selector : app.layout.hitsSelector column row = false)
    (result : app.layout.resultAt? row = none) : click app column row = operate app .unfocus := by
  simp only [click, logo, selector, result, editing, if_pos, Bool.false_eq_true, if_false]

end App

/-- A click elsewhere tells the server nothing. It abandons the edit, unless the pointer is
taken to be over the results: then only the focus is taken away. -/
theorem Engine.process_click_elsewhere (engine : Engine) (column row : Nat)
    (editing : App.isEditing engine.app = true)
    (logo : engine.app.layout.hitsLogo column row = false)
    (selector : engine.app.layout.hitsSelector column row = false)
    (result : engine.app.layout.resultAt? row = none) :
    let after := (engine.process (.pointer ⟨.click, column, row⟩)).engine.app
    after.header.backend = engine.app.header.backend ∧
      after.header.session =
        if engine.app.isHovering then
          { engine.app.header.session with mode := .editing .unfocused .hovering }
        else ⟨.reading, engine.app.header.session.context.abandon⟩ := by
  intro after
  have leaves : App.reduce engine.app (.pointer ⟨.click, column, row⟩) =
      App.operate engine.app .unfocus :=
    engine.app.click_elsewhere column row editing logo selector result
  obtain ⟨layout, same⟩ : ∃ layout, after =
      { (App.operate engine.app .unfocus).app with layout } :=
    (engine.process_operates _ .unfocus leaves).1
  have silent : (engine.app.header.session.perform .unfocus engine.app.fresh).Silent
      (if engine.app.isHovering then
        { engine.app.header.session with mode := .editing .unfocused .hovering }
      else ⟨.reading, engine.app.header.session.context.abandon⟩) engine.app.fresh := by
    split
    · rename_i hovering
      exact engine.app.header.session.perform_unfocus_hovering _ hovering
    · rename_i elsewhere
      exact engine.app.header.session.perform_unfocus_elsewhere _ editing
        (eq_false_of_ne_true elsewhere)
  rw [same]
  refine ⟨?_, silent.session⟩
  change (engine.app.header.perform .unfocus engine.app.fresh).header.backend = _
  rw [Header.perform_backend, silent.told]
  rfl

namespace Watched

/-- Whether the pointer is over the results after commands: where it was when it last moved in
the edit that is under way decides it, or where it was before them. -/
def pointed (watched : Watched) (inside : Bool) : List App.Command → Bool
  | [] => inside
  | command :: rest =>
    let after := watched.take command
    after.pointed (App.isEditing after.engine.app && watched.engine.app.pointed inside command) rest

variable (watched : Watched)

/-- Along commands the pointer is taken to be where it was when it last moved. -/
theorem follow_hovering (commands : List App.Command) :
    (watched.follow commands).engine.app.isHovering =
      watched.pointed watched.engine.app.isHovering commands := by
  induction commands generalizing watched with
  | nil => rfl
  | cons command rest ih =>
    obtain ⟨layout, after⟩ := watched.engine.process_engine command
    have step : (watched.take command).engine.app.isHovering =
        (App.isEditing (watched.take command).engine.app &&
          watched.engine.app.pointed watched.engine.app.isHovering command) := by
      change (watched.engine.process command).engine.app.isHovering =
        (App.isEditing (watched.engine.process command).engine.app && _)
      rw [after]
      exact watched.engine.app.reduce_hovering command
    rw [pointed, ← step]
    exact ih (watched.take command)

/-- While a name is edited, a click on neither the logo nor the selector nor a result tells
the server nothing and commits nothing. If the pointer was over the results when it last moved
in the edit, then the edit goes on without the focus. Else the edit is abandoned, and the text
is the one before it. -/
theorem click_elsewhere_leaves (header : Header) (store : Config.Store) (source : Config.Source)
    (errorTimeout : Nat) (fresh : Selector.ErrorId) (commands : List App.Command)
    (watched : Watched)
    (begun : watched = (start header store source errorTimeout fresh).follow commands)
    (reached : header.Reached) (editing : App.isEditing watched.engine.app = true)
    (column row : Nat) (logo : watched.engine.app.layout.hitsLogo column row = false)
    (selector : watched.engine.app.layout.hitsSelector column row = false)
    (result : watched.engine.app.layout.resultAt? row = none) :
    let before := watched.engine.app.header
    let after := (watched.engine.process (.pointer ⟨.click, column, row⟩)).engine.app.header
    let inside := (start header store source errorTimeout fresh).pointed
      header.session.mode.isHovering commands
    after.backend = before.backend ∧
      after.session.context.committed = before.session.context.committed ∧
      (inside = true →
        after.session = { before.session with mode := .editing .unfocused .hovering }) ∧
      (inside = false →
        after.session.mode = .reading ∧
          after.session.context.value = before.session.context.previous ∧
          before.session.context.previous = before.session.context.committed) := by
  intro before after inside
  have attained : before.Reached := by
    change watched.engine.app.header.Reached
    rw [begun]
    exact follow_reached commands reached
  have remembered : watched.engine.app.isHovering = inside := by
    rw [begun]
    exact follow_hovering _ commands
  obtain ⟨silent, session⟩ :=
    watched.engine.process_click_elsewhere column row editing logo selector result
  rw [remembered] at session
  cases told : inside with
  | true =>
    rw [told, if_pos rfl] at session
    exact ⟨silent, congrArg (·.context.committed) session, fun _ => session, nofun⟩
  | false =>
    rw [told, if_neg Bool.false_ne_true] at session
    refine ⟨silent, congrArg (·.context.committed) session, nofun, fun _ => ⟨?_, ?_, ?_⟩⟩
    · exact congrArg (·.mode) session
    · exact congrArg (·.context.value) session
    · exact attained.coherent.editing editing

/-- After the pointer left the results, a click where one was before the list became empty
abandons the edit. -/
theorem click_elsewhere_leaves_left :
    let header := (Header.start {} "alpha" ["alpha", "beta"] { kind := .writer } .first).header
    let commands : List App.Command :=
      [.edit, .pointer ⟨.moved, 0, 2⟩, .inputKey ⟨.char 'b', {}⟩, .pointer ⟨.moved, 0, 9⟩]
    let watched := (start header {} (.fixed {}) 3000 .first).follow commands
    watched.engine.app.header.session.context.value = "alphab" ∧
      (watched.engine.process (.pointer ⟨.click, 0, 2⟩)).engine.app.header.session.mode =
        .reading ∧
      (watched.engine.process (.pointer ⟨.click, 0, 2⟩)).engine.app.header.session.context.value =
        watched.engine.app.header.session.context.previous := by
  intro header commands watched
  have editing : App.isEditing watched.engine.app = true := by decide +kernel
  have left : (start header {} (.fixed {}) 3000 .first).pointed
      header.session.mode.isHovering commands = false := by decide +kernel
  obtain ⟨-, -, -, outcome⟩ := click_elsewhere_leaves header {} (.fixed {}) 3000 .first commands
    watched rfl (.start {} "alpha" ["alpha", "beta"] { kind := .writer } .first) editing 0 2
    (by decide +kernel) (by decide +kernel) (by decide +kernel)
  obtain ⟨reading, restored, -⟩ := outcome left
  exact ⟨by decide +kernel, reading, restored⟩

/-- A click elsewhere need not abandon the edit: here the pointer rests on the second result
while typing empties the list, and a click there finds no result. -/
theorem click_elsewhere_kept :
    let header := (Header.start {} "alpha" ["alpha", "beta"] { kind := .writer } .first).header
    ¬ ∀ (commands : List App.Command) (column row : Nat),
      let watched := (start header {} (.fixed {}) 3000 .first).follow commands
      App.isEditing watched.engine.app = true →
      watched.engine.app.layout.hitsLogo column row = false →
      watched.engine.app.layout.hitsSelector column row = false →
      watched.engine.app.layout.resultAt? row = none →
      (watched.engine.process (.pointer ⟨.click, column, row⟩)).engine.app.header.session.mode =
        .reading := by
  intro header abandons
  have reading := abandons
    [.edit, .pointer ⟨.moved, 0, 2⟩, .inputKey ⟨.char 'b', {}⟩] 0 2 (by decide +kernel)
    (by decide +kernel) (by decide +kernel) (by decide +kernel)
  exact absurd reading (by decide +kernel)

end Watched

end DatasetPicker
