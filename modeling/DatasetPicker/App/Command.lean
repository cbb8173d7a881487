import DatasetPicker.App.Key
import DatasetPicker.Selector.Basic

/-!
# Commands and effects

Input becomes commands for the application, and the application answers with effects: to
draw the screen again, to run a command after a delay, or to forget such a command.
-/

namespace DatasetPicker.App

/-- A command for the application. -/
inductive Command where
  | exit
  /-- The same as a click on the logo. -/
  | refresh
  | edit
  | blur
  | commit
  | nextResult
  | previousResult
  | acceptCompletion
  | clearInput
  | inputKey (key : Key)
  | pointer (pointer : Pointer)
  | expireError (id : Selector.ErrorId)
  | tick
  deriving DecidableEq, Repr

/-- A command as a journal value. Ticks and pointers are not listed. -/
def Command.write? : Command → Option String
  | .exit => some "Exit"
  | .refresh => some "Refresh"
  | .edit => some "Edit"
  | .blur => some "Blur"
  | .commit => some "Commit"
  | .nextResult => some "NextResult"
  | .previousResult => some "PreviousResult"
  | .acceptCompletion => some "AcceptCompletion"
  | .clearInput => some "ClearInput"
  | .inputKey key => some ("InputKey(" ++ key.write ++ ")")
  | .expireError id => some ("ExpireError(ErrorId(" ++ toString id.number ++ "))")
  | .pointer _ => none
  | .tick => none

/-- What the application asks for. -/
inductive Effect where
  /-- Draw the screen again. -/
  | render
  /-- Run the command after a delay in milliseconds, instead of what waits under the key. -/
  | debounce (key : String) (delay : Nat) (command : Command)
  /-- Forget what waits under the key. -/
  | cancel (key : String)
  deriving DecidableEq, Repr

end DatasetPicker.App
