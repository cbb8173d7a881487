import DatasetPicker.Proofs.Run.Step

/-!
# Refusals along a run

A step refuses at most one name. What is shown before a step tells what is shown after it:
the step refuses a name, ends the edit, drains what is due, or leaves the rejection and its
timer alone.
-/

namespace DatasetPicker.Run

open App (Command Schedule errorTimer)
open Selector (CommitError ErrorId)

/-- A step refuses a name: it uses up the next id, and leaves the selector with a rejection
of that id. -/
structure Refuses (run : Run) (step : Step) (error : CommitError) : Prop where
  issued : error.id = run.engine.app.fresh
  used : (run.take step).engine.app.fresh = run.engine.app.fresh.next
  marked : (run.take step).engine.app.header.session.context.error = some error

/-- A step ends the time for which a rejection is shown. -/
def Ends (run : Run) (step : Step) (due : Nat) : Prop :=
  (∃ newer, run.Refuses step newer) ∨ App.isEditing (run.take step).engine.app = false ∨
    step = .drain ∧ due ≤ run.engine.now

/-- Some run between steps, with versions left for some orders. -/
structure Regular (run : Run) (orders : Nat) : Prop where
  orderly : run.engine.Orderly
  manual : ∀ key id, run.engine.bindings.resolve? key ≠ some (.expireError id)
  room : run.engine.schedule.version errorTimer + orders < Schedule.greatestVersion

variable {run : Run}

/-- With bindings that expire nothing, no event is the expiry of a rejection. -/
theorem command_manual (bindings : App.Bindings)
    (manual : ∀ key id, bindings.resolve? key ≠ some (.expireError id))
    (event : Terminal.Event) (command : Command) (found : command? bindings event = some command)
    (id : ErrorId) : command ≠ .expireError id := by
  cases event with
  | key key =>
    obtain rfl := Option.some.inj found
    unfold App.Bindings.command
    cases bound : bindings.resolve? key with
    | none => exact nofun
    | some command =>
      intro expires
      exact manual key id (bound.trans (congrArg some expires))
  | pointer pointer =>
    obtain rfl := Option.some.inj found
    exact nofun
  | resize size => contradiction
  | tick =>
    obtain rfl := Option.some.inj found
    exact nofun

/-- The standard bindings expire nothing. -/
theorem standard_manual (key : App.Key) (id : ErrorId) :
    App.Bindings.standard.resolve? key ≠ some (.expireError id) := by
  intro bound
  obtain ⟨before, after, entries, -⟩ := List.lookup_eq_some_iff.mp bound
  have listed : (key, Command.expireError id) ∈ App.Bindings.standard.entries := by
    rw [entries]
    exact List.mem_append_right _ (List.mem_cons_self ..)
  simp [App.Bindings.standard] at listed

/-- What a step that does not drain does to the rejection that is shown. -/
theorem Regular.fate {orders : Nat} (regular : run.Regular orders) (step : Step)
    (awake : step ≠ .drain) :
    Engine.Fate run.engine (run.take step).engine ∧
      Engine.Timers (run.take step).engine.schedule := by
  have unused : run.engine.schedule.version errorTimer < Schedule.greatestVersion :=
    Nat.lt_of_le_of_lt (Nat.le_add_right _ _) regular.room
  cases step with
  | event event =>
    change Engine.Fate run.engine (run.handle event).engine ∧
      Engine.Timers (run.handle event).engine.schedule
    obtain ⟨command, found, after⟩ | ⟨-, after⟩ := handle_engine run event
    · rw [after]
      exact run.engine.process_fate command regular.orderly unused
        (command_manual _ regular.manual event command found)
    · rw [after]
      exact ⟨Engine.fate_of_same _ _ rfl rfl rfl rfl, regular.orderly.timers⟩
  | feed active datasets =>
    exact ⟨run.engine.setDatasets_fate active datasets, regular.orderly.timers⟩
  | wait milliseconds =>
    exact ⟨Engine.fate_of_same _ _ rfl rfl rfl rfl, regular.orderly.timers⟩
  | drain => exact absurd rfl awake

/-- After a step there is room for the orders that the step did not give. -/
theorem Regular.take {orders : Nat} {step : Step}
    (regular : run.Regular (run.orders step + orders)) : (run.take step).Regular orders := by
  obtain ⟨bindings, -⟩ := take_fixed run regular.orderly.timers step
  have version := take_version run regular.orderly.timers step errorTimer
  have room := regular.room
  refine ⟨?_, bindings ▸ regular.manual, by omega⟩
  by_cases drains : step = .drain
  · subst drains
    exact regular.orderly.drain
  · obtain ⟨fate, timers⟩ := regular.fate step drains
    exact fate.orderly regular.orderly timers

/-- A step that uses up no id refuses nothing. -/
theorem unused_refuses (step : Step) (error : CommitError)
    (unused : (run.take step).engine.app.fresh = run.engine.app.fresh) :
    ¬ run.Refuses step error := by
  intro refuses
  exact run.engine.app.fresh.ne_next (unused.symm.trans refuses.used)

/-- Draining uses up no id. -/
theorem drain_unused (timers : Engine.Timers run.engine.schedule) :
    (run.take .drain).engine.app.fresh = run.engine.app.fresh := by
  obtain ⟨visibleError, layout, drained, -, -⟩ := run.engine.drain_engine timers
  change run.engine.drain.1.app.fresh = _
  rw [drained]

/-- A refusal is shown, and its timer runs from then on. -/
theorem Regular.refuses {orders : Nat} {step : Step} {error : CommitError}
    (regular : run.Regular orders) (refuses : run.Refuses step error) :
    (run.take step).engine.Armed error (run.engine.now + run.engine.app.errorTimeout) := by
  have awake : step ≠ .drain := by
    rintro rfl
    exact unused_refuses .drain error (drain_unused regular.orderly.timers) refuses
  cases (regular.fate step awake).1 with
  | keeps unused shown armed => exact absurd refuses (unused_refuses step error unused)
  | ends unused hidden ended => exact absurd refuses (unused_refuses step error unused)
  | refuses newer issued used armed =>
    have same := Option.some.inj (refuses.marked.symm.trans armed.marked)
    rw [same]
    exact armed

/-- A rejection that is shown after a step was shown before or is the one of that step. -/
theorem Regular.shown {orders : Nat} {step : Step} {error : CommitError}
    (regular : run.Regular orders) (visible : (run.take step).engine.app.shown = some error) :
    run.engine.app.shown = some error ∨ run.Refuses step error := by
  by_cases drains : step = .drain
  · subst drains
    exact .inl (run.engine.drain_shown regular.orderly.timers error visible)
  · cases (regular.fate step drains).1 with
    | keeps unused shown armed => exact .inl (shown.symm.trans visible)
    | ends unused hidden ended =>
      rw [hidden] at visible
      contradiction
    | refuses newer issued used armed =>
      have same := Option.some.inj (armed.shown.symm.trans visible)
      exact .inr (same ▸ ⟨issued, used, armed.marked⟩)

/-- Ids that are used up stay used up. -/
theorem Regular.fresh {orders : Nat} (regular : run.Regular orders) (step : Step) :
    run.engine.app.fresh.number ≤ (run.take step).engine.app.fresh.number := by
  by_cases drains : step = .drain
  · subst drains
    exact Nat.le_of_eq (congrArg ErrorId.number (drain_unused regular.orderly.timers).symm)
  · cases (regular.fate step drains).1 with
    | keeps unused shown armed =>
      exact Nat.le_of_eq (congrArg ErrorId.number unused.symm)
    | ends unused hidden ended =>
      exact Nat.le_of_eq (congrArg ErrorId.number unused.symm)
    | refuses error issued used armed =>
      rw [used]
      exact Nat.le_succ _

/-- Draining when its time is over hides the rejection that is shown, and before that it ends
nothing. -/
theorem Regular.armed_drain {orders : Nat} {error : CommitError} {due : Nat}
    (regular : run.Regular orders) (armed : run.engine.Armed error due) :
    run.Ends .drain due ∧ (run.take .drain).engine.app.shown ≠ some error ∨
      ¬ run.Ends .drain due ∧ (run.take .drain).engine.Armed error due := by
  have timers := regular.orderly.timers
  by_cases late : due ≤ run.engine.now
  · have hidden : (run.take .drain).engine.app.shown = none :=
      run.engine.drain_late error due armed timers late
    refine .inl ⟨.inr (.inr ⟨rfl, late⟩), ?_⟩
    rw [hidden]
    exact nofun
  · have kept : (run.take .drain).engine.Armed error due :=
      run.engine.drain_early error due armed timers (Nat.lt_of_not_le late)
    refine .inr ⟨?_, kept⟩
    rintro (⟨newer, refuses⟩ | ended | ⟨-, reached⟩)
    · exact unused_refuses .drain newer (drain_unused timers) refuses
    · exact absurd (ended.symm.trans kept.editing) nofun
    · exact late reached

/-- A step ends the time of the rejection that is shown and hides it, or neither. -/
theorem Regular.armed {orders : Nat} {error : CommitError} {due : Nat}
    (regular : run.Regular orders) (armed : run.engine.Armed error due) (step : Step) :
    run.Ends step due ∧ (run.take step).engine.app.shown ≠ some error ∨
      ¬ run.Ends step due ∧ (run.take step).engine.Armed error due := by
  by_cases drains : step = .drain
  · subst drains
    exact regular.armed_drain armed
  · cases (regular.fate step drains).1 with
    | keeps unused shown armedAfter =>
      have kept := armedAfter error due armed
      refine .inr ⟨?_, kept⟩
      rintro (⟨newer, refuses⟩ | ended | ⟨drain, -⟩)
      · exact unused_refuses step newer unused refuses
      · exact absurd (ended.symm.trans kept.editing) nofun
      · exact drains drain
    | ends unused hidden ended =>
      refine .inl ⟨.inr (.inl ended), ?_⟩
      rw [hidden]
      exact nofun
    | refuses newer issued used rearmed =>
      refine .inl ⟨.inl ⟨newer, issued, used, rearmed.marked⟩, ?_⟩
      -- The newer rejection has an id that the one before cannot have.
      have before := regular.orderly.issued error armed.shown
      rw [rearmed.shown]
      intro same
      rw [← Option.some.inj same, issued] at before
      exact Nat.lt_irrefl _ before

/-- A rejection that is not shown but has an id that is used up is not shown again. -/
theorem Regular.hidden {orders : Nat} {error : CommitError} (regular : run.Regular orders)
    (issued : error.id.number < run.engine.app.fresh.number)
    (hidden : run.engine.app.shown ≠ some error) (step : Step) :
    error.id.number < (run.take step).engine.app.fresh.number ∧
      (run.take step).engine.app.shown ≠ some error := by
  refine ⟨Nat.lt_of_lt_of_le issued (regular.fresh step), ?_⟩
  intro visible
  obtain before | refuses := regular.shown visible
  · exact hidden before
  · rw [refuses.issued] at issued
    exact Nat.lt_irrefl _ issued

end DatasetPicker.Run
