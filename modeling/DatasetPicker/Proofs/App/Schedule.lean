import DatasetPicker.App.Schedule

/-!
# Tasks that are current

Superseded tasks stay in the list, so what waits under a key are the tasks of that key whose
version is the key's own. As long as versions are not used up, no task is ahead of its key:
then a new task is alone under its key, and nothing changes under the others. Draining
moves tasks about, but it takes exactly those that are due.
-/

namespace DatasetPicker.App

namespace Schedule

variable {α : Type}

/-- The current tasks of a key. -/
def live (schedule : Schedule α) (key : String) : List (Task α) :=
  schedule.tasks.filter fun task => task.key == key && schedule.isCurrent task

/-- No task is ahead of the version of its key. -/
def Bounded (schedule : Schedule α) : Prop :=
  ∀ task ∈ schedule.tasks, task.version ≤ schedule.version task.key

/-- A schedule without tasks is bounded. -/
theorem empty_bounded : ({} : Schedule α).Bounded := by
  intro task waiting
  contradiction

/-! ## Versions -/

/-- Removing the entries of one key does not change what another key is mapped to. -/
theorem lookup_filter (versions : List (String × Nat)) (removed key : String)
    (other : key ≠ removed) :
    (versions.filter (·.1 ≠ removed)).lookup key = versions.lookup key := by
  induction versions with
  | nil => rfl
  | cons entry rest ih =>
    obtain ⟨name, number⟩ := entry
    by_cases gone : name = removed
    · have passed : (key == name) = false := by simpa [gone] using other
      rw [List.filter_cons_of_neg (by simpa using gone), ih, List.lookup_cons, passed]
    · rw [List.filter_cons_of_pos (by simpa using gone), List.lookup_cons, List.lookup_cons, ih]

/-- A key that is moved on has its next version. -/
theorem advance_version (schedule : Schedule α) (key : String) :
    (schedule.advance key).version key = schedule.nextVersion key := by
  simp [advance, version]

/-- The other keys keep their versions. -/
theorem advance_version_other (schedule : Schedule α) (key other : String)
    (distinct : other ≠ key) : (schedule.advance key).version other = schedule.version other := by
  have passed : (other == key) = false := beq_eq_false_iff_ne.mpr distinct
  simp only [advance, version, List.lookup_cons, passed, lookup_filter _ _ _ distinct]

/-- No version goes back. -/
theorem advance_version_le (schedule : Schedule α) (key other : String)
    (unused : schedule.version key < greatestVersion) :
    schedule.version other ≤ (schedule.advance key).version other := by
  by_cases same : other = key
  · subst same
    rw [advance_version, nextVersion]
    omega
  · exact Nat.le_of_eq (advance_version_other schedule key other same).symm

/-- Moving a key on adds at most one to any version. -/
theorem advance_version_le_succ (schedule : Schedule α) (key other : String) :
    (schedule.advance key).version other ≤ schedule.version other + 1 := by
  by_cases same : other = key
  · subst same
    rw [advance_version, nextVersion]
    omega
  · rw [advance_version_other schedule key other same]
    omega

/-- While versions are not used up, every task of a key that is moved on is superseded. -/
theorem advance_supersedes (schedule : Schedule α) (key : String) (bounded : schedule.Bounded)
    (unused : schedule.version key < greatestVersion) (task : Task α)
    (waiting : task ∈ schedule.tasks) (under : task.key = key) :
    (schedule.advance key).isCurrent task = false := by
  have behind := bounded task waiting
  have ahead : schedule.version key < (schedule.advance key).version key := by
    rw [advance_version, nextVersion]
    omega
  subst under
  simp only [isCurrent, beq_eq_false_iff_ne, ne_eq]
  omega

/-! ## Debouncing and cancelling -/

/-- A new task is the only current one of its key. -/
theorem debounce_live (schedule : Schedule α) (key : String) (delay : Nat) (payload : α)
    (now : Nat) (bounded : schedule.Bounded)
    (unused : schedule.version key < greatestVersion) :
    (schedule.debounce key delay payload now).live key =
      [⟨now + delay, key, schedule.nextVersion key, payload⟩] := by
  have superseded : schedule.tasks.filter
      (fun task => task.key == key && (schedule.advance key).isCurrent task) = [] := by
    apply List.filter_eq_nil_iff.mpr
    intro task waiting
    by_cases under : task.key = key
    · simp [advance_supersedes schedule key bounded unused task waiting under]
    · simp [under]
  have split : (schedule.debounce key delay payload now).live key =
      schedule.tasks.filter
          (fun task => task.key == key && (schedule.advance key).isCurrent task) ++
        [Task.mk (now + delay) key (schedule.nextVersion key) payload].filter
          (fun task => task.key == key && (schedule.advance key).isCurrent task) :=
    List.filter_append ..
  rw [split, superseded]
  simp [isCurrent, advance_version]

/-- A new task is not ahead of its key, and the others are no more ahead than before. -/
theorem debounce_bounded (schedule : Schedule α) (key : String) (delay : Nat) (payload : α)
    (now : Nat) (bounded : schedule.Bounded)
    (unused : schedule.version key < greatestVersion) :
    (schedule.debounce key delay payload now).Bounded := by
  intro task waiting
  change task.version ≤ (schedule.advance key).version task.key
  obtain before | new := List.mem_append.mp waiting
  · exact Nat.le_trans (bounded task before) (advance_version_le schedule key _ unused)
  · obtain rfl := List.mem_singleton.mp new
    exact Nat.le_of_eq (advance_version schedule key).symm

/-- Cancelling leaves no task ahead of its key. -/
theorem cancel_bounded (schedule : Schedule α) (key : String) (bounded : schedule.Bounded)
    (unused : schedule.version key < greatestVersion) : (schedule.cancel key).Bounded := by
  intro task waiting
  have before := (List.mem_filter.mp waiting).1
  exact Nat.le_trans (bounded task before) (advance_version_le schedule key _ unused)

/-! ## Draining -/

/-- Filling the free place only changes the order. -/
theorem fillHead_perm (rest : List (Task α)) : (fillHead rest).Perm rest := by
  unfold fillHead
  cases found : rest.getLast? with
  | none => rw [List.getLast?_eq_none_iff.mp found]
  | some last =>
    obtain ⟨before, rfl⟩ := List.getLast?_eq_some_iff.mp found
    rw [List.dropLast_concat]
    exact (List.perm_append_comm : (before ++ [last]).Perm ([last] ++ before)).symm

/-- A sweep takes the tasks that are due and leaves the others, in some order. -/
theorem sweep_perm (now : Nat) (tasks : List (Task α)) :
    (sweep now tasks).1.Perm (tasks.filter (·.due ≤ now)) ∧
      (sweep now tasks).2.Perm (tasks.filter (now < ·.due)) := by
  -- A task that is taken is followed by the others in another order, so the lists are not equal.
  fun_induction sweep now tasks with
  | case1 => exact ⟨.refl _, .refl _⟩
  | case2 task rest due taken left swept ih =>
    rw [swept] at ih
    have filled := fillHead_perm rest
    have early : ¬ now < task.due := by omega
    simp only [List.filter_cons, due, early, decide_true, decide_false, ↓reduceIte,
      Bool.false_eq_true]
    exact ⟨(ih.1.trans (filled.filter _)).cons task, ih.2.trans (filled.filter _)⟩
  | case3 task rest early taken left swept ih =>
    rw [swept] at ih
    have late : now < task.due := by omega
    simp only [List.filter_cons, early, late, decide_true, decide_false, ↓reduceIte,
      Bool.false_eq_true]
    exact ⟨ih.1, ih.2.cons task⟩

/-- Draining gives the payloads of the current tasks that are due. -/
theorem mem_drain (schedule : Schedule α) (now : Nat) (payload : α) :
    payload ∈ (schedule.drain now).1 ↔
      ∃ task ∈ schedule.tasks, task.due ≤ now ∧ schedule.isCurrent task = true ∧
        task.payload = payload := by
  have taken := (sweep_perm now schedule.tasks).1
  change payload ∈ ((sweep now schedule.tasks).1.filter schedule.isCurrent).map Task.payload ↔ _
  simp only [List.mem_map, List.mem_filter, taken.mem_iff, decide_eq_true_eq, and_assoc]

/-- Draining leaves the tasks that are not due. -/
theorem drain_tasks (schedule : Schedule α) (now : Nat) :
    (schedule.drain now).2.tasks.Perm (schedule.tasks.filter (now < ·.due)) :=
  (sweep_perm now schedule.tasks).2

/-- Draining leaves those current tasks of a key that are not due. -/
theorem drain_live (schedule : Schedule α) (now : Nat) (key : String) :
    ((schedule.drain now).2.live key).Perm ((schedule.live key).filter (now < ·.due)) := by
  have left := (drain_tasks schedule now).filter
    (fun task => task.key == key && schedule.isCurrent task)
  refine left.trans (.of_eq ?_)
  simp only [live, List.filter_filter, Bool.and_comm]

/-- Draining leaves no task ahead of its key. -/
theorem drain_bounded (schedule : Schedule α) (now : Nat) (bounded : schedule.Bounded) :
    (schedule.drain now).2.Bounded := by
  intro task waiting
  have before := List.mem_filter.mp ((drain_tasks schedule now).mem_iff.mp waiting)
  exact bounded task before.1

end Schedule

end DatasetPicker.App
