import DatasetPicker.App.Reduce
import DatasetPicker.Proofs.Header.Perform

/-!
# What a command comes to

However a command is found from keys, the pointer and the layout, it comes to one of five
things: an operation of the selector that is never a feed, a refresh, leaving, the expiry of
a rejection, or nothing. Only a pointer that moves tells the selector whether it is over the
results.
-/

namespace DatasetPicker.App

open Selector (Operation)

/-- The pointer moved. -/
def Command.isMove : Command → Bool
  | .pointer ⟨.moved, _, _⟩ => true
  | _ => false

/-- What a command can come to. -/
inductive Course (app : App) (command : Command) (reduction : Reduction) : Prop where
  | operates (operation : Operation) (feed : operation.isFeed = false)
      (does : reduction = operate app operation)
      (points : operation.isPointing = true → command.isMove = true)
  | refreshes (does : reduction = refresh app)
  | exits (does : reduction = { app := { app with exiting := true } })
  | expires (id : Selector.ErrorId) (asked : command = .expireError id)
      (does : reduction =
        { app := { app with header := (app.header.expireError id).1 }
          effects := if (app.header.expireError id).2 then [.render] else [] })
  | rests (does : reduction = unchanged app)

/-- A key that is not bound types, starts an edit, leaves, or does nothing. -/
theorem inputKey_course (app : App) (key : Key) :
    Course app (.inputKey key) (inputKey app key) := by
  unfold inputKey
  split
  · exact .rests rfl
  · split
    · split
      · rename_i text _
        exact .operates (.typeText text) rfl rfl nofun
      · exact .rests rfl
    · split
      · exact .operates (.send .edit) rfl rfl nofun
      · split
        · exact .exits rfl
        · exact .rests rfl

/-- A pointer that moves enters or leaves the results, or does nothing. -/
theorem pointerMoved_course (app : App) (column row : Nat) :
    Course app (.pointer ⟨.moved, column, row⟩) (pointerMoved app row) := by
  unfold pointerMoved
  split
  · split
    · exact .operates (.send .enterResults) rfl rfl (fun _ => rfl)
    · exact .operates (.send .leaveResults) rfl rfl (fun _ => rfl)
    · exact .rests rfl
  · exact .rests rfl

/-- A click refreshes, selects, moves the focus, starts or abandons an edit, or does
nothing. -/
theorem click_course (app : App) (column row : Nat) :
    Course app (.pointer ⟨.click, column, row⟩) (click app column row) := by
  unfold click
  split
  · exact .refreshes rfl
  · split
    · rename_i index _
      exact .operates (.select index) rfl rfl nofun
    · split
      · split
        · exact .operates (.send .focusInput) rfl rfl nofun
        · exact .operates (.send .edit) rfl rfl nofun
      · split
        · exact .operates .unfocus rfl rfl nofun
        · exact .rests rfl

/-- Every command takes one of the five courses. -/
theorem reduce_course (app : App) (command : Command) :
    Course app command (reduce app command) := by
  cases command with
  | exit => exact .exits rfl
  | refresh => exact .refreshes rfl
  | edit => exact .operates (.send .edit) rfl rfl nofun
  | blur => exact .operates (.send .blur) rfl rfl nofun
  | commit =>
    simp only [reduce]
    split
    · exact .operates .submit rfl rfl nofun
    · exact .operates (.send .edit) rfl rfl nofun
  | nextResult =>
    simp only [reduce]
    split
    · exact .operates (.send .nextResult) rfl rfl nofun
    · exact .operates (.send .edit) rfl rfl nofun
  | previousResult => exact .operates (.send .previousResult) rfl rfl nofun
  | acceptCompletion => exact .operates .complete rfl rfl nofun
  | clearInput => exact .operates (.send (.change "")) rfl rfl nofun
  | inputKey key => exact inputKey_course app key
  | pointer pointer =>
    obtain ⟨kind, column, row⟩ := pointer
    cases kind with
    | moved => exact pointerMoved_course app column row
    | click => exact click_course app column row
  | expireError id => exact .expires id rfl rfl
  | tick => exact .rests rfl

/-! ## Refreshing -/

variable (app : App)

/-- Fetching the configuration again changes the store, the source and the palette only. -/
theorem reload_changes : ∃ store source palette,
    app.reload.1 = { app with store, source, palette } := by
  simp only [reload]
  split
  · exact ⟨_, _, _, rfl⟩
  · exact ⟨_, _, _, rfl⟩

/-- A refresh clicks the logo, and else changes what fetching changes. -/
theorem refresh_changes : ∃ store source palette, (refresh app).app =
    { app with header := app.header.activateLogo.1, store, source, palette } :=
  reload_changes { app with header := app.header.activateLogo.1 }

/-- A refresh asks to draw and nothing else. -/
theorem refresh_effects : (refresh app).effects = [.render] := rfl

/-- No command changes how long a rejection is shown. -/
theorem reduce_errorTimeout (command : Command) :
    (reduce app command).app.errorTimeout = app.errorTimeout := by
  cases reduce_course app command with
  | operates operation feed does => rw [does]; rfl
  | refreshes does =>
    obtain ⟨store, source, palette, changed⟩ := refresh_changes app
    rw [does, changed]
  | exits does => rw [does]
  | expires id asked does => rw [does]
  | rests does => rw [does]; rfl

end DatasetPicker.App
