import DatasetPicker.Proofs.App.Schedule
import Mathlib.Data.Finmap

/-!
# The schedule as an agenda

An agenda has at most one entry under each key: a payload and the time when it is due. A
schedule stands for the agenda of its current tasks. Its superseded tasks stand for nothing,
however long they stay in the list and wherever draining moves them. So as long as versions
are not used up, draining a schedule gives what draining its agenda gives, in some order.
-/

namespace DatasetPicker.App

/-- For each key at most one payload, with the time when it is due. -/
abbrev Agenda (α : Type) := Finmap fun _ : String => Nat × α

/-- What can be asked of a schedule. -/
inductive Call (α : Type) where
  | debounce (key : String) (delay : Nat) (payload : α) (now : Nat)
  | cancel (key : String)
  | drain (now : Nat)

/-- The call uses up a version of its key. -/
def Call.reschedules {α : Type} : Call α → Bool
  | .debounce .. | .cancel _ => true
  | .drain _ => false

variable {α : Type}

/-! ## Agendas -/

namespace Agenda

/-- The payloads of the entries that are due. -/
def ready (agenda : Agenda α) (now : Nat) : Multiset α :=
  (agenda.entries.filter (·.2.1 ≤ now)).map (·.2.2)

/-- The entries that are not due. -/
def later (agenda : Agenda α) (now : Nat) : Agenda α where
  entries := agenda.entries.filter (now < ·.2.1)
  nodupKeys := Multiset.nodup_keys.mp (Multiset.nodup_of_le
    (Multiset.map_le_map (Multiset.filter_le _ agenda.entries)) agenda.nodupKeys.nodup_keys)

/-- An entry replaces the one under its key, cancelling removes it, and draining removes the
entries that are due. -/
def take (agenda : Agenda α) : Call α → Agenda α
  | .debounce key delay payload now => agenda.insert key (now + delay, payload)
  | .cancel key => agenda.erase key
  | .drain now => agenda.later now

/-- The agenda after calls in order. -/
def follow (agenda : Agenda α) (calls : List (Call α)) : Agenda α := calls.foldl take agenda

/-- Where keys differ, erasing one removes all that is under it. -/
theorem kerase_eq_filter (entries : List (Σ _ : String, Nat × α)) (key : String)
    (distinct : entries.NodupKeys) : entries.kerase key = entries.filter (·.1 ≠ key) := by
  induction entries with
  | nil => rfl
  | cons entry rest ih =>
    obtain ⟨single, distinct⟩ := List.nodupKeys_cons.mp distinct
    by_cases same : key = entry.1
    · have others : ∀ other ∈ rest, decide (other.1 ≠ key) = true := by
        intro other among
        apply decide_eq_true
        rintro rfl
        exact single (same ▸ List.mem_keys_of_mem among)
      rw [List.kerase_cons_eq same, List.filter_cons_of_neg (by simp [same]),
        List.filter_eq_self.mpr others]
    · rw [List.kerase_cons_ne same, List.filter_cons_of_pos (by simpa using Ne.symm same),
        ih distinct]

/-- Erasing a key keeps the entries under the others. -/
theorem entries_erase (agenda : Agenda α) (key : String) :
    (agenda.erase key).entries = agenda.entries.filter (·.1 ≠ key) := by
  induction agenda using Finmap.induction_on with
  | H list =>
    have erased := kerase_eq_filter list.entries key list.nodupKeys
    rw [Finmap.erase_toFinmap]
    exact congrArg Multiset.ofList erased

/-- Inserting an entry keeps the entries under the other keys. -/
theorem entries_insert (agenda : Agenda α) (key : String) (value : Nat × α) :
    (agenda.insert key value).entries = ⟨key, value⟩ ::ₘ agenda.entries.filter (·.1 ≠ key) := by
  induction agenda using Finmap.induction_on with
  | H list =>
    have erased := kerase_eq_filter list.entries key list.nodupKeys
    rw [Finmap.insert_toFinmap]
    exact congrArg (fun entries => Multiset.ofList (⟨key, value⟩ :: entries)) erased

end Agenda

/-! ## Schedules -/

namespace Schedule

/-- The schedule after a call. -/
def take (schedule : Schedule α) : Call α → Schedule α
  | .debounce key delay payload now => schedule.debounce key delay payload now
  | .cancel key => schedule.cancel key
  | .drain now => (schedule.drain now).2

/-- The schedule after calls in order. -/
def follow (schedule : Schedule α) (calls : List (Call α)) : Schedule α :=
  calls.foldl take schedule

end Schedule

/-- The entry that a task stands for. -/
def Task.entry (task : Task α) : Σ _ : String, Nat × α := ⟨task.key, task.due, task.payload⟩

namespace Schedule

/-- The entries of the current tasks. -/
def entries (schedule : Schedule α) : Multiset (Σ _ : String, Nat × α) :=
  ((schedule.tasks.filter schedule.isCurrent).map Task.entry : List _)

/-- The entries that satisfy a condition are those of the tasks that satisfy it. -/
theorem filter_entries (schedule : Schedule α) (condition : (Σ _ : String, Nat × α) → Prop)
    [DecidablePred condition] :
    schedule.entries.filter condition =
      (((schedule.tasks.filter (condition ·.entry)).filter schedule.isCurrent).map
        Task.entry : List _) := by
  rw [entries, Multiset.filter_coe, List.filter_map, List.filter_filter, List.filter_filter]
  simp only [Function.comp_def, Bool.and_comm]

/-- Moving a key on takes the entry under it away. -/
theorem advance_entries (schedule : Schedule α) (key : String) (bounded : schedule.Bounded)
    (unused : schedule.version key < greatestVersion) :
    (schedule.advance key).entries = schedule.entries.filter (·.1 ≠ key) := by
  have current : ∀ task ∈ schedule.tasks, (schedule.advance key).isCurrent task =
      (schedule.isCurrent task && decide (task.key ≠ key)) := by
    intro task waiting
    by_cases under : task.key = key
    · rw [advance_supersedes schedule key bounded unused task waiting under]
      simp [under]
    · rw [isCurrent, advance_version_other schedule key task.key under]
      simp [under, isCurrent]
  have tasks : (schedule.advance key).tasks.filter (schedule.advance key).isCurrent =
      (schedule.tasks.filter (·.key ≠ key)).filter schedule.isCurrent :=
    (List.filter_congr current).trans List.filter_filter.symm
  rw [filter_entries, entries, tasks]
  rfl

/-- A new task stands for the entry that replaces the one under its key. -/
theorem debounce_entries (schedule : Schedule α) (key : String) (delay : Nat) (payload : α)
    (now : Nat) (bounded : schedule.Bounded) (unused : schedule.version key < greatestVersion) :
    (schedule.debounce key delay payload now).entries =
      ⟨key, now + delay, payload⟩ ::ₘ schedule.entries.filter (·.1 ≠ key) := by
  let task : Task α := ⟨now + delay, key, schedule.nextVersion key, payload⟩
  have current : (schedule.advance key).isCurrent task = true := by
    rw [isCurrent, advance_version, beq_self_eq_true]
  have split : (schedule.debounce key delay payload now).entries =
      (schedule.advance key).entries + {task.entry} := by
    change Multiset.ofList ((((schedule.advance key).tasks ++ [task]).filter
      (schedule.advance key).isCurrent).map Task.entry) = _
    rw [List.filter_append, List.filter_cons_of_pos current, List.filter_nil, List.map_append,
      ← Multiset.coe_add]
    rfl
  rw [split, advance_entries schedule key bounded unused, add_comm, Multiset.singleton_add]
  rfl

/-- Cancelling takes the entry under the key away. -/
theorem cancel_entries (schedule : Schedule α) (key : String) (bounded : schedule.Bounded)
    (unused : schedule.version key < greatestVersion) :
    (schedule.cancel key).entries = schedule.entries.filter (·.1 ≠ key) := by
  have left : (schedule.cancel key).entries =
      (schedule.advance key).entries.filter (·.1 ≠ key) :=
    (filter_entries (schedule.advance key) (·.1 ≠ key)).symm
  rw [left, advance_entries schedule key bounded unused, Multiset.filter_filter]
  simp only [and_self]

/-- Draining leaves the entries that are not due. -/
theorem drain_entries (schedule : Schedule α) (now : Nat) :
    (schedule.drain now).2.entries = schedule.entries.filter (now < ·.2.1) := by
  rw [filter_entries]
  exact Multiset.coe_eq_coe.mpr (((drain_tasks schedule now).filter _).map _)

/-- Draining gives the payloads of the entries that are due. -/
theorem drain_payloads (schedule : Schedule α) (now : Nat) :
    ((schedule.drain now).1 : Multiset α) =
      (schedule.entries.filter (·.2.1 ≤ now)).map (·.2.2) := by
  have taken := ((sweep_perm now schedule.tasks).1.filter schedule.isCurrent).map Task.payload
  rw [filter_entries, Multiset.map_coe, List.map_map]
  exact Multiset.coe_eq_coe.mpr taken

/-! ## Refinement -/

/-- A schedule that stands for an agenda, and has used up at most so many versions of a key. -/
structure Refines (schedule : Schedule α) (agenda : Agenda α) (used : Nat) : Prop where
  bounded : schedule.Bounded
  versions : ∀ key, schedule.version key ≤ used
  entries : schedule.entries = agenda.entries

variable {schedule : Schedule α} {agenda : Agenda α} {used : Nat}

/-- A new schedule stands for the empty agenda. -/
theorem empty_refines : ({} : Schedule α).Refines ∅ 0 :=
  ⟨empty_bounded, fun _ => Nat.le_refl 0, rfl⟩

/-- A call has the same effect on a schedule and on the agenda that it stands for. -/
theorem Refines.take (refines : schedule.Refines agenda used) (call : Call α)
    (unused : used < greatestVersion) :
    (schedule.take call).Refines (agenda.take call) (used + if call.reschedules then 1 else 0) := by
  have key_unused (key : String) : schedule.version key < greatestVersion :=
    Nat.lt_of_le_of_lt (refines.versions key) unused
  have advanced (key other : String) : (schedule.advance key).version other ≤ used + 1 :=
    Nat.le_trans (advance_version_le_succ schedule key other)
      (Nat.succ_le_succ (refines.versions other))
  cases call with
  | debounce key delay payload now =>
    have replaced :=
      debounce_entries schedule key delay payload now refines.bounded (key_unused key)
    rw [refines.entries, ← agenda.entries_insert key (now + delay, payload)] at replaced
    exact ⟨debounce_bounded schedule key delay payload now refines.bounded (key_unused key),
      advanced key, replaced⟩
  | cancel key =>
    have removed := cancel_entries schedule key refines.bounded (key_unused key)
    rw [refines.entries, ← agenda.entries_erase key] at removed
    exact ⟨cancel_bounded schedule key refines.bounded (key_unused key), advanced key, removed⟩
  | drain now =>
    have left := drain_entries schedule now
    rw [refines.entries] at left
    exact ⟨drain_bounded schedule now refines.bounded, refines.versions, left⟩

/-- As long as versions are not used up, calls have the same effect on a schedule and on the
agenda that it stands for. -/
theorem Refines.follow (calls : List (Call α)) (refines : schedule.Refines agenda used)
    (few : used + calls.countP Call.reschedules < greatestVersion) :
    (schedule.follow calls).Refines (agenda.follow calls)
      (used + calls.countP Call.reschedules) := by
  induction calls generalizing schedule agenda used with
  | nil => exact refines
  | cons call rest ih =>
    rw [List.countP_cons, Nat.add_comm (rest.countP _), ← Nat.add_assoc] at few ⊢
    exact ih (refines.take call (by omega)) few

/-- A new schedule is given any calls, of which fewer than the greatest version put a payload
under a key or cancel one. Then draining it gives exactly what is due in the agenda after the
same calls, in some order, and what is left is not due. -/
theorem drain_refines (calls : List (Call α))
    (few : calls.countP Call.reschedules < greatestVersion) (now : Nat) :
    let schedule := ({} : Schedule α).follow calls
    let agenda := (∅ : Agenda α).follow calls
    ((schedule.drain now).1 : Multiset α) = agenda.ready now ∧
      ∀ task ∈ (schedule.drain now).2.tasks, now < task.due := by
  intro schedule agenda
  have refines : schedule.Refines agenda _ := empty_refines.follow calls (by omega)
  constructor
  · rw [drain_payloads, refines.entries]
    rfl
  · intro task left
    have late := List.mem_filter.mp ((drain_tasks schedule now).mem_iff.mp left)
    exact of_decide_eq_true late.2

/-- A payload that was replaced, one that was cancelled and one that was drained before do not
come up again. -/
theorem drain_refines_replaced :
    let calls : List (Call Nat) :=
      [.debounce "a" 100 1 0, .debounce "b" 10 2 0, .debounce "c" 5 3 0, .debounce "a" 100 4 50,
        .cancel "b", .drain 120, .debounce "c" 5 5 120]
    calls.countP Call.reschedules < greatestVersion ∧
      (((follow {} calls).drain 150).1 : Multiset Nat) = {4, 5} := by
  intro calls
  have few : calls.countP Call.reschedules < greatestVersion := by decide
  obtain ⟨drained, -⟩ := drain_refines calls few 150
  exact ⟨few, drained.trans (by decide +kernel)⟩

end Schedule

end DatasetPicker.App
