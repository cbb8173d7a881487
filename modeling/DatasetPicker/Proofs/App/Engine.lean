import DatasetPicker.App.Engine
import DatasetPicker.Proofs.App.Rejection
import DatasetPicker.Proofs.App.Schedule

/-!
# The engine and the timer of a rejection

While a rejection is shown, its expiry is the one current task of the error timer. A command
keeps it so, ends the edit, or shows a new rejection and arms the timer again. Running what
is due hides the rejection exactly when its own expiry is due.
-/

namespace DatasetPicker.Engine

open App (Command Effect Schedule Task errorTimer)
open Selector (CommitError ErrorId)

/-- A rejection is shown and kept by the edit, and its expiry alone is current. -/
structure Armed (engine : Engine) (error : CommitError) (due : Nat) : Prop where
  shown : engine.app.shown = some error
  editing : App.isEditing engine.app = true
  marked : engine.app.header.session.context.error = some error
  timer : (engine.schedule.live errorTimer).map (fun task => (task.due, task.payload)) =
    [(due, .expireError error.id)]

/-- Only expiries wait, all under the error timer, and none is ahead of its version. -/
structure Timers (schedule : Schedule Command) : Prop where
  bounded : schedule.Bounded
  expiries : ∀ task ∈ schedule.tasks,
    task.key = errorTimer ∧ ∃ id, task.payload = .expireError id

/-- A rejection that is shown has an id that is used up, and its timer is armed. -/
structure Orderly (engine : Engine) : Prop where
  timers : Timers engine.schedule
  issued : ∀ error, engine.app.shown = some error → error.id.number < engine.app.fresh.number
  armed : ∀ error, engine.app.shown = some error → ∃ due, engine.Armed error due

/-- What becomes of a rejection that is shown. -/
inductive Fate (before after : Engine) : Prop where
  | keeps (unused : after.app.fresh = before.app.fresh)
      (shown : after.app.shown = before.app.shown)
      (armed : ∀ error due, before.Armed error due → after.Armed error due)
  | ends (unused : after.app.fresh = before.app.fresh) (hidden : after.app.shown = none)
      (ended : App.isEditing after.app = false)
  | refuses (error : CommitError) (issued : error.id = before.app.fresh)
      (used : after.app.fresh = before.app.fresh.next)
      (armed : after.Armed error (before.now + before.app.errorTimeout))

/-- Whatever becomes of the rejection, the engine stays orderly if its timers do. -/
theorem Fate.orderly {before after : Engine} (fate : Fate before after)
    (orderly : before.Orderly) (timers : Timers after.schedule) : after.Orderly := by
  cases fate with
  | keeps unused shown armed =>
    refine ⟨timers, ?_, ?_⟩
    · intro error visible
      rw [unused]
      exact orderly.issued error (shown.symm.trans visible)
    · intro error visible
      obtain ⟨due, timed⟩ := orderly.armed error (shown.symm.trans visible)
      exact ⟨due, armed error due timed⟩
  | ends unused hidden ended =>
    refine ⟨timers, ?_, ?_⟩
    · intro error visible
      rw [hidden] at visible
      contradiction
    · intro error visible
      rw [hidden] at visible
      contradiction
  | refuses newer issued used armed =>
    refine ⟨timers, ?_, ?_⟩
    · intro error visible
      obtain rfl := Option.some.inj (armed.shown.symm.trans visible)
      rw [issued, used]
      exact Nat.lt_succ_self _
    · intro error visible
      obtain rfl := Option.some.inj (armed.shown.symm.trans visible)
      exact ⟨_, armed⟩

/-! ## Timers -/

/-- The expiry of a rejection may be put under the error timer. -/
theorem Timers.debounce {schedule : Schedule Command} (timers : Timers schedule)
    (unused : schedule.version errorTimer < Schedule.greatestVersion) (delay : Nat)
    (id : ErrorId) (now : Nat) :
    Timers (schedule.debounce errorTimer delay (.expireError id) now) := by
  refine ⟨schedule.debounce_bounded _ _ _ now timers.bounded unused, ?_⟩
  intro task waiting
  obtain before | new := List.mem_append.mp waiting
  · exact timers.expiries task before
  · obtain rfl := List.mem_singleton.mp new
    exact ⟨rfl, id, rfl⟩

/-- The error timer may be disarmed. -/
theorem Timers.cancel {schedule : Schedule Command} (timers : Timers schedule)
    (unused : schedule.version errorTimer < Schedule.greatestVersion) :
    Timers (schedule.cancel errorTimer) := by
  refine ⟨schedule.cancel_bounded _ timers.bounded unused, ?_⟩
  intro task waiting
  exact timers.expiries task (List.mem_filter.mp waiting).1

/-- What is due may be drained. -/
theorem Timers.drain {schedule : Schedule Command} (timers : Timers schedule) (now : Nat) :
    Timers (schedule.drain now).2 := by
  refine ⟨schedule.drain_bounded now timers.bounded, ?_⟩
  intro task waiting
  have before := List.mem_filter.mp ((schedule.drain_tasks now).mem_iff.mp waiting)
  exact timers.expiries task before.1

/-! ## Commands -/

/-- Running a command takes over what reducing it gives; drawing changes the layout only. -/
theorem process_engine (engine : Engine) (command : Command) : ∃ layout,
    (engine.process command).engine =
      { engine with
        app := { (App.reduce engine.app command).app with layout }
        schedule := (App.reduce engine.app command).effects.foldl
          (reschedule engine.now) engine.schedule } := by
  simp only [process, drawIfAsked]
  split
  · exact ⟨_, rfl⟩
  · exact ⟨_, rfl⟩

/-- A command that does not touch the session, the rejection or the schedule keeps what is
shown. -/
theorem fate_of_same (before after : Engine) (unused : after.app.fresh = before.app.fresh)
    (session : after.app.header.session = before.app.header.session)
    (shown : after.app.shown = before.app.shown) (schedule : after.schedule = before.schedule) :
    Fate before after := by
  refine .keeps unused shown ?_
  intro error due armed
  refine ⟨shown.trans armed.shown, ?_, ?_, ?_⟩
  · rw [App.isEditing, session]
    exact armed.editing
  · rw [session]
    exact armed.marked
  · rw [schedule]
    exact armed.timer

/-- An operation does to the timer what it does to the rejection. -/
theorem operated_fate (before after : Engine) (reduction : App.Reduction) (layout : Layout)
    (operated : App.Operated before.app reduction) (timers : Timers before.schedule)
    (unused : before.schedule.version errorTimer < Schedule.greatestVersion)
    (app : after.app = { reduction.app with layout })
    (schedule : after.schedule =
      reduction.effects.foldl (reschedule before.now) before.schedule) :
    Fate before after ∧ Timers after.schedule := by
  have shownAfter : after.app.shown = reduction.app.shown := by
    rw [app]
    rfl
  have editingAfter : App.isEditing after.app = App.isEditing reduction.app := by
    rw [app]
    rfl
  have errorAfter : after.app.header.session.context.error =
      reduction.app.header.session.context.error := by
    rw [app]
  have freshAfter : after.app.fresh = reduction.app.fresh := by
    rw [app]
  cases operated with
  | leaves same shown kept effects =>
    have still : after.schedule = before.schedule := by
      rw [schedule, effects]
      rfl
    refine ⟨.keeps (freshAfter.trans same) (shownAfter.trans shown) ?_, still ▸ timers⟩
    intro error due armed
    obtain ⟨editing, marked⟩ := kept error armed.shown armed.marked
    refine ⟨(shownAfter.trans shown).trans armed.shown, editingAfter.trans editing,
      errorAfter.trans marked, ?_⟩
    rw [still]
    exact armed.timer
  | ends same hidden ended effects =>
    have disarmed : after.schedule = before.schedule.cancel errorTimer := by
      rw [schedule, effects]
      rfl
    exact ⟨.ends (freshAfter.trans same) (shownAfter.trans hidden) (editingAfter.trans ended),
      disarmed ▸ timers.cancel unused⟩
  | refuses error issued used shown editing marked effects =>
    have rearmed : after.schedule = before.schedule.debounce errorTimer
        before.app.errorTimeout (.expireError error.id) before.now := by
      rw [schedule, effects]
      rfl
    refine ⟨.refuses error issued (freshAfter.trans used)
      ⟨shownAfter.trans shown, editingAfter.trans editing, errorAfter.trans marked, ?_⟩,
      rearmed ▸ timers.debounce unused _ _ _⟩
    rw [rearmed, Schedule.debounce_live _ _ _ _ _ timers.bounded unused]
    rfl

/-- What a command that is not an expiry does to the rejection that is shown. -/
theorem process_fate (engine : Engine) (command : Command) (orderly : engine.Orderly)
    (unused : engine.schedule.version errorTimer < Schedule.greatestVersion)
    (manual : ∀ id, command ≠ .expireError id) :
    Fate engine (engine.process command).engine ∧
      Timers (engine.process command).engine.schedule := by
  obtain ⟨layout, processed⟩ := process_engine engine command
  rw [processed]
  cases App.reduce_course engine.app command with
  | operates operation feed does =>
    rw [does]
    exact operated_fate engine _ _ layout
      (App.operate_rejection engine.app operation feed) orderly.timers unused rfl rfl
  | refreshes does =>
    rw [does, App.refresh_effects]
    obtain ⟨store, source, palette, changed⟩ := App.refresh_changes engine.app
    rw [changed]
    exact ⟨fate_of_same _ _ rfl rfl rfl rfl, orderly.timers⟩
  | exits does =>
    rw [does]
    exact ⟨fate_of_same _ _ rfl rfl rfl rfl, orderly.timers⟩
  | expires id asked does => exact absurd asked (manual id)
  | rests does =>
    rw [does]
    exact ⟨fate_of_same _ _ rfl rfl rfl rfl, orderly.timers⟩

/-- A feed ends the edit and hides the rejection. The timer is left to run out. -/
theorem setDatasets_fate (engine : Engine) (active : String) (datasets : List String) :
    Fate engine (engine.setDatasets active datasets).1 :=
  .ends rfl rfl rfl

/-- Effects add at most one to a version for each of them that is not to draw. -/
theorem reschedule_version (now : Nat) (effects : List Effect) (schedule : Schedule Command)
    (key : String) :
    (effects.foldl (reschedule now) schedule).version key ≤
      schedule.version key + effects.countP (· ≠ .render) := by
  induction effects generalizing schedule with
  | nil => exact Nat.le_refl _
  | cons effect rest ih =>
    have first : (reschedule now schedule effect).version key ≤
        schedule.version key + if effect = .render then 0 else 1 := by
      cases effect with
      | render => exact Nat.le_refl _
      | debounce other delay command => exact schedule.advance_version_le_succ other key
      | cancel other => exact schedule.advance_version_le_succ other key
    have later := ih (reschedule now schedule effect)
    rw [List.foldl_cons, List.countP_cons]
    by_cases drawn : effect = .render
    · rw [if_pos drawn] at first
      rw [if_neg (by simpa using drawn)]
      omega
    · rw [if_neg drawn] at first
      rw [if_pos (by simpa using drawn)]
      omega

/-- A command adds at most one to a version for each effect that is not to draw. -/
theorem process_version (engine : Engine) (command : Command) (key : String) :
    (engine.process command).engine.schedule.version key ≤
      engine.schedule.version key +
        (engine.process command).effects.countP (· ≠ .render) :=
  reschedule_version engine.now (engine.process command).effects engine.schedule key

/-- No command changes the bindings, the time, or how long a rejection is shown. -/
theorem process_fixed (engine : Engine) (command : Command) :
    (engine.process command).engine.bindings = engine.bindings ∧
      (engine.process command).engine.now = engine.now ∧
      (engine.process command).engine.app.errorTimeout = engine.app.errorTimeout := by
  obtain ⟨layout, processed⟩ := process_engine engine command
  rw [processed]
  exact ⟨rfl, rfl, App.reduce_errorTimeout engine.app command⟩

end DatasetPicker.Engine
