/-!
# Schedule

Payloads wait under keys until they are due. Putting a payload under a key supersedes
what waits there; the superseded task stays in the list and is dropped when it comes up,
because its version is no longer that of its key. Times are in milliseconds.
-/

namespace DatasetPicker.App

/-- A payload that waits. -/
structure Task (α : Type) where
  due : Nat
  key : String
  version : Nat
  payload : α
  deriving DecidableEq, Repr

/-- The waiting tasks, and for each key that was used its version. -/
structure Schedule (α : Type) where
  tasks : List (Task α) := []
  versions : List (String × Nat) := []
  deriving DecidableEq, Repr

namespace Schedule

variable {α : Type}

/-- Versions are counted up to here. -/
def greatestVersion : Nat := UInt64.size - 1

/-- The version of a key, zero before its first use. -/
def version (schedule : Schedule α) (key : String) : Nat :=
  (schedule.versions.lookup key).getD 0

/-- The next version of a key. -/
def nextVersion (schedule : Schedule α) (key : String) : Nat :=
  min (schedule.version key + 1) greatestVersion

/-- Moves a key on to its next version. -/
def advance (schedule : Schedule α) (key : String) : Schedule α :=
  { schedule with
    versions :=
      (key, schedule.nextVersion key) :: schedule.versions.filter (·.1 ≠ key) }

/-- Lets a payload wait under a key, instead of anything that waits there. -/
def debounce (schedule : Schedule α) (key : String) (delay : Nat) (payload : α)
    (now : Nat) : Schedule α :=
  let version := schedule.nextVersion key
  let schedule := schedule.advance key
  { schedule with tasks := schedule.tasks ++ [⟨now + delay, key, version, payload⟩] }

/-- Forgets what waits under a key. -/
def cancel (schedule : Schedule α) (key : String) : Schedule α :=
  let schedule := schedule.advance key
  { schedule with tasks := schedule.tasks.filter (·.key ≠ key) }

/-- A task is current when nothing superseded it. -/
def isCurrent (schedule : Schedule α) (task : Task α) : Bool :=
  schedule.version task.key == task.version

/-- A list without its head; the last element takes the free place. -/
def fillHead (rest : List (Task α)) : List (Task α) :=
  match rest.getLast? with
  | none => []
  | some last => last :: rest.dropLast

/-- Filling the free place keeps the number of tasks behind the head. -/
theorem length_fillHead (rest : List (Task α)) : (fillHead rest).length = rest.length := by
  unfold fillHead
  cases found : rest.getLast? with
  | none => simp_all
  | some last =>
    have nonempty : rest ≠ [] := by
      intro empty
      simp [empty] at found
    have positive : 0 < rest.length := List.length_pos_iff.mpr nonempty
    simp only [List.length_cons, List.length_dropLast]
    omega

/-- Takes the due tasks out of a list: those taken, in the order in which they come up, and
those left. A task that is taken is replaced by the last one, which is looked at next. -/
def sweep (now : Nat) : List (Task α) → List (Task α) × List (Task α)
  | [] => ([], [])
  | task :: rest =>
    if task.due ≤ now then
      let (taken, left) := sweep now (fillHead rest)
      (task :: taken, left)
    else
      let (taken, left) := sweep now rest
      (taken, task :: left)
termination_by tasks => tasks.length
decreasing_by
  · simp [length_fillHead]
  · simp

/-- Takes out the tasks that are due and gives the payloads of those that are current. -/
def drain (schedule : Schedule α) (now : Nat) : List α × Schedule α :=
  let (taken, left) := sweep now schedule.tasks
  ((taken.filter schedule.isCurrent).map Task.payload, { schedule with tasks := left })

/-- How long to wait for input: until the next task is due, and at most the default. -/
def pollTimeout (schedule : Schedule α) (now standard : Nat) : Nat :=
  schedule.tasks.foldl (fun least task => min least (task.due - now)) standard

/-- The number of waiting tasks, superseded ones included. -/
def pending (schedule : Schedule α) : Nat := schedule.tasks.length

end Schedule

end DatasetPicker.App
