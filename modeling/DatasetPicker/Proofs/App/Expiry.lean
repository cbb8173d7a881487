import DatasetPicker.Proofs.App.Engine

/-!
# What is due

All that waits are expiries, so running what is due can only hide a rejection. It hides the
one that is shown exactly when its own expiry is due; an older expiry, if there were one,
names another rejection.
-/

namespace DatasetPicker.Engine

open App (Command Schedule errorTimer)
open Selector (CommitError ErrorId)

/-- An expiry hides the rejection that it names, and else changes the layout only. -/
theorem process_expiry (engine : Engine) (id : ErrorId) : ∃ visibleError layout,
    (engine.process (.expireError id)).engine =
        { engine with
          app :=
            { engine.app with header := { engine.app.header with visibleError }, layout } } ∧
      visibleError = engine.app.shown.filter (fun error => error.id ≠ id) ∧
      ∀ effect ∈ (engine.process (.expireError id)).effects, effect = .render := by
  obtain ⟨layout, processed⟩ := process_engine engine (.expireError id)
  have effects : (engine.process (.expireError id)).effects =
      if (engine.app.header.expireError id).2 then [.render] else [] := rfl
  have still : (App.reduce engine.app (.expireError id)).effects.foldl
      (reschedule engine.now) engine.schedule = engine.schedule := by
    simp only [App.reduce]
    split <;> rfl
  refine ⟨_, layout, ?_, rfl, ?_⟩
  · rw [processed, still]
    simp only [App.reduce, Header.expireError_header]
    rfl
  · intro effect asked
    rw [effects] at asked
    split at asked
    · exact List.mem_singleton.mp asked
    · contradiction

/-- Expiries one after the other hide the rejection that one of them names. -/
theorem processAll_expiries (engine : Engine) (commands : List Command)
    (expiries : ∀ command ∈ commands, ∃ id, command = .expireError id) :
    ∃ visibleError layout,
      (engine.processAll commands).1 =
          { engine with
            app :=
              { engine.app with header := { engine.app.header with visibleError }, layout } } ∧
        visibleError =
          engine.app.shown.filter (fun error => .expireError error.id ∉ commands) ∧
        ∀ processed ∈ (engine.processAll commands).2, ∀ effect ∈ processed.effects,
          effect = .render := by
  induction commands generalizing engine with
  | nil =>
    refine ⟨engine.app.shown, engine.app.layout, rfl, ?_, ?_⟩
    · cases engine.app.shown <;> rfl
    · intro processed ran
      contradiction
  | cons command rest ih =>
    obtain ⟨id, rfl⟩ := expiries command (List.mem_cons_self ..)
    obtain ⟨first, drawn, processed, hidden, drawing⟩ := process_expiry engine id
    obtain ⟨visibleError, layout, after, left, others⟩ :=
      ih (engine.process (.expireError id)).engine
        (fun command later => expiries command (List.mem_cons_of_mem _ later))
    refine ⟨visibleError, layout, ?_, ?_, ?_⟩
    · change ((engine.process (.expireError id)).engine.processAll rest).1 = _
      rw [after, processed]
    · rw [left, processed]
      change first.filter _ = _
      rw [hidden, Option.filter_filter]
      congr 1
      funext error
      by_cases named : error.id = id
      · simp [named]
      · simp [named]
    · intro ran among
      change ran ∈ engine.process (.expireError id) ::
        ((engine.process (.expireError id)).engine.processAll rest).2 at among
      cases among with
      | head => exact drawing
      | tail _ later => exact others ran later

/-- Draining hides the rejection whose expiry comes up, and asks for nothing but drawing. -/
theorem drain_engine (engine : Engine) (timers : Timers engine.schedule) :
    ∃ visibleError layout,
      engine.drain.1 =
          { engine with
            app :=
              { engine.app with header := { engine.app.header with visibleError }, layout }
            schedule := (engine.schedule.drain engine.now).2 } ∧
        visibleError = engine.app.shown.filter (fun error =>
          .expireError error.id ∉ (engine.schedule.drain engine.now).1) ∧
        ∀ processed ∈ engine.drain.2, ∀ effect ∈ processed.effects, effect = .render := by
  apply processAll_expiries { engine with schedule := (engine.schedule.drain engine.now).2 }
  intro command drained
  obtain ⟨task, waiting, due, current, rfl⟩ := (Schedule.mem_drain _ _ _).mp drained
  exact (timers.expiries task waiting).2

/-- The expiry of the rejection that is shown comes up once it is due, and not before. -/
theorem Armed.mem_drain {engine : Engine} {error : CommitError} {due : Nat}
    (armed : engine.Armed error due) (timers : Timers engine.schedule) :
    .expireError error.id ∈ (engine.schedule.drain engine.now).1 ↔ due ≤ engine.now := by
  rw [Schedule.mem_drain]
  constructor
  · rintro ⟨task, waiting, reached, current, payload⟩
    have live : task ∈ engine.schedule.live errorTimer :=
      List.mem_filter.mpr ⟨waiting, by simp [timers.expiries task waiting, current]⟩
    have listed := List.mem_map_of_mem (f := fun task => (task.due, task.payload)) live
    rw [armed.timer, List.mem_singleton] at listed
    have same : task.due = due := congrArg Prod.fst listed
    omega
  · intro reached
    have listed : (due, .expireError error.id) ∈
        (engine.schedule.live errorTimer).map (fun task => (task.due, task.payload)) := by
      rw [armed.timer]
      exact List.mem_singleton_self _
    obtain ⟨task, live, pair⟩ := List.mem_map.mp listed
    obtain ⟨waiting, current⟩ := List.mem_filter.mp live
    simp only [Bool.and_eq_true, beq_iff_eq] at current
    obtain ⟨same, payload⟩ := Prod.mk.inj pair
    exact ⟨task, waiting, same ▸ reached, current.2, payload⟩

/-- Draining in time keeps the rejection and its timer. -/
theorem drain_early (engine : Engine) (error : CommitError) (due : Nat)
    (armed : engine.Armed error due) (timers : Timers engine.schedule)
    (early : engine.now < due) : engine.drain.1.Armed error due := by
  obtain ⟨visibleError, layout, drained, left, -⟩ := drain_engine engine timers
  have absent : .expireError error.id ∉ (engine.schedule.drain engine.now).1 := by
    rw [armed.mem_drain timers]
    omega
  rw [drained]
  refine ⟨?_, armed.editing, armed.marked, ?_⟩
  · change visibleError = some error
    rw [left, armed.shown, Option.filter_some, if_pos (by simpa using absent)]
  · have kept := (Schedule.drain_live engine.schedule engine.now errorTimer).map
      (fun task => (task.due, task.payload))
    have all : (engine.schedule.live errorTimer).filter (engine.now < ·.due) =
        engine.schedule.live errorTimer := by
      apply List.filter_eq_self.mpr
      intro task live
      have listed := List.mem_map_of_mem (f := fun task => (task.due, task.payload)) live
      rw [armed.timer, List.mem_singleton] at listed
      have same : task.due = due := congrArg Prod.fst listed
      rw [same]
      exact decide_eq_true early
    rw [all, armed.timer] at kept
    exact List.perm_singleton.mp kept

/-- Draining at the time that is due or later hides the rejection. -/
theorem drain_late (engine : Engine) (error : CommitError) (due : Nat)
    (armed : engine.Armed error due) (timers : Timers engine.schedule)
    (late : due ≤ engine.now) : engine.drain.1.app.shown = none := by
  obtain ⟨visibleError, layout, drained, left, -⟩ := drain_engine engine timers
  have present := (armed.mem_drain timers).mpr late
  rw [drained]
  change visibleError = none
  rw [left, armed.shown, Option.filter_some, if_neg (by simpa using present)]

/-- Draining shows nothing that was not shown. -/
theorem drain_shown (engine : Engine) (timers : Timers engine.schedule) (error : CommitError)
    (visible : engine.drain.1.app.shown = some error) : engine.app.shown = some error := by
  obtain ⟨visibleError, layout, drained, left, -⟩ := drain_engine engine timers
  rw [drained] at visible
  change visibleError = some error at visible
  rw [left] at visible
  exact (Option.filter_eq_some_iff.mp visible).1

/-- An orderly engine is orderly after it is drained. -/
theorem Orderly.drain {engine : Engine} (orderly : engine.Orderly) :
    engine.drain.1.Orderly := by
  obtain ⟨visibleError, layout, drained, -, -⟩ := drain_engine engine orderly.timers
  refine ⟨?_, ?_, ?_⟩
  · rw [drained]
    exact orderly.timers.drain engine.now
  · intro error visible
    have before := orderly.issued error (drain_shown engine orderly.timers error visible)
    rw [drained]
    exact before
  · intro error visible
    obtain ⟨due, armed⟩ :=
      orderly.armed error (drain_shown engine orderly.timers error visible)
    by_cases late : due ≤ engine.now
    · rw [drain_late engine error due armed orderly.timers late] at visible
      contradiction
    · exact ⟨due, drain_early engine error due armed orderly.timers (Nat.lt_of_not_le late)⟩

end DatasetPicker.Engine
