import DatasetPicker.Proofs.App.Schedule

/-!
# How long to wait

Between two drains the loop waits for input. The wait is the longest that is no longer than the
standard and over as soon as a task is due, superseded or not. So the drain at the end of a wait
that was cut short takes a task, and no drain leaves a task for which the next wait would be over
at once.
-/

namespace DatasetPicker.App.Schedule

variable {α : Type} (schedule : Schedule α) (now standard : Nat)

/-! ## The longest wait -/

/-- The wait is the longest that neither exceeds the standard nor goes beyond the due time of a
task. -/
theorem le_pollTimeout_iff (wait : Nat) :
    wait ≤ schedule.pollTimeout now standard ↔
      wait ≤ standard ∧ ∀ task ∈ schedule.tasks, wait ≤ task.due - now := by
  unfold pollTimeout
  induction schedule.tasks generalizing standard with
  | nil => simp
  | cons task rest ih =>
    -- The least number so far takes the place of the standard.
    rw [List.foldl_cons, ih, Nat.le_min, List.forall_mem_cons, and_assoc]

/-- The wait is at most the standard. -/
theorem pollTimeout_le_standard : schedule.pollTimeout now standard ≤ standard :=
  ((le_pollTimeout_iff schedule now standard _).mp (Nat.le_refl _)).1

/-- The wait is over when a task is due. -/
theorem pollTimeout_le_due (task : Task α) (waiting : task ∈ schedule.tasks) :
    schedule.pollTimeout now standard ≤ task.due - now :=
  ((le_pollTimeout_iff schedule now standard _).mp (Nat.le_refl _)).2 task waiting

/-- A wait that is cut short ends when a task is due. -/
theorem exists_due_of_short (short : schedule.pollTimeout now standard < standard) :
    ∃ task ∈ schedule.tasks, task.due ≤ now + schedule.pollTimeout now standard := by
  -- A wait longer by one is below the standard too, so it is a task that does not allow it.
  have longest := mt (le_pollTimeout_iff schedule now standard _).mpr
    (Nat.not_succ_le_self (schedule.pollTimeout now standard))
  simp only [Nat.succ_le_of_lt short, true_and, Classical.not_forall] at longest
  obtain ⟨task, waiting, early⟩ := longest
  exact ⟨task, waiting, by omega⟩

/-! ## Waits between drains -/

/-- Draining leaves as many tasks as are not due. -/
theorem drain_pending :
    (schedule.drain now).2.pending = schedule.tasks.countP (now < ·.due) := by
  rw [List.countP_eq_length_filter]
  exact (drain_tasks schedule now).length_eq

/-- When a task is due, draining leaves fewer tasks. -/
theorem drain_pending_lt (task : Task α) (waiting : task ∈ schedule.tasks)
    (due : task.due ≤ now) : (schedule.drain now).2.pending < schedule.pending := by
  rw [drain_pending, pending]
  refine Nat.lt_of_le_of_ne List.countP_le_length ?_
  intro all
  have late := List.countP_eq_length.mp all task waiting
  exact Nat.not_lt_of_le due (of_decide_eq_true late)

/-- The tasks that are left by a drain are due later. -/
theorem drain_leaves_later (task : Task α) (left : task ∈ (schedule.drain now).2.tasks) :
    now < task.due :=
  of_decide_eq_true (List.mem_filter.mp ((drain_tasks schedule now).mem_iff.mp left)).2

/-- The wait is at most the standard, and it is over by the time when a task that is not overdue is
due, superseded or not. If it is cut short, the drain at its end takes a task. Right after a drain
it is not over at once, so the loop does not spin. -/
theorem wait_until_due (schedule : Schedule α) (now standard : Nat) :
    let wait := schedule.pollTimeout now standard
    wait ≤ standard ∧
      (∀ task ∈ schedule.tasks, now ≤ task.due → now + wait ≤ task.due) ∧
      (wait < standard → (schedule.drain (now + wait)).2.pending < schedule.pending) ∧
      (0 < standard → 0 < (schedule.drain now).2.pollTimeout now standard) := by
  intro wait
  refine ⟨pollTimeout_le_standard schedule now standard, ?_, ?_, ?_⟩
  · intro task waiting ahead
    have allowed : wait ≤ task.due - now := pollTimeout_le_due schedule now standard task waiting
    omega
  · intro short
    obtain ⟨task, waiting, due⟩ := exists_due_of_short schedule now standard short
    exact drain_pending_lt schedule (now + wait) task waiting due
  · intro positive
    refine (le_pollTimeout_iff (schedule.drain now).2 now standard 1).mpr ⟨positive, ?_⟩
    intro task left
    have later := drain_leaves_later schedule now task left
    omega

/-- A superseded task cuts the wait short, and the drain at its end takes it. -/
theorem wait_until_due_superseded :
    let schedule : Schedule Nat := (({} : Schedule Nat).debounce "a" 100 1 0).debounce "a" 100 2 50
    schedule.pending = 2 ∧ schedule.pollTimeout 60 120 = 40 ∧ (schedule.drain 100).2.pending < 2 ∧
      0 < (schedule.drain 100).2.pollTimeout 100 120 := by
  intro schedule
  have cut : schedule.pollTimeout 60 120 = 40 := by decide
  obtain ⟨-, -, taken, -⟩ := wait_until_due schedule 60 120
  obtain ⟨-, -, -, ahead⟩ := wait_until_due schedule 100 120
  rw [cut] at taken
  exact ⟨rfl, cut, taken (by decide), ahead (by decide)⟩

end DatasetPicker.App.Schedule
