import DatasetPicker.Proofs.Run.Rejection

/-!
# How long a rejection is shown

In every run a rejection is shown from the step that refuses a name until a newer refusal,
the end of the edit, or the first draining when its time is over. All along the edit keeps
the same rejection, and its expiry is the one task that is current under the error timer. A
rejection that the header shows before the run has no timer.
-/

namespace DatasetPicker.Run

open App (Command Schedule)
open Selector (CommitError ErrorId)

variable {run : Run}

/-- As many orders may be given along some steps as there is room for. -/
theorem Regular.follow {orders : Nat} (steps : List Step)
    (regular : run.Regular (run.ordersAlong steps + orders)) :
    (run.follow steps).Regular orders := by
  induction steps generalizing run with
  | nil =>
    rw [ordersAlong, Nat.zero_add] at regular
    exact regular
  | cons step rest ih =>
    rw [ordersAlong, Nat.add_assoc] at regular
    exact ih regular.take

/-- The time for which a rejection is shown is the same all along. -/
theorem Regular.errorTimeout (steps : List Step) (regular : run.Regular (run.ordersAlong steps)) :
    (run.follow steps).engine.app.errorTimeout = run.engine.app.errorTimeout := by
  induction steps generalizing run with
  | nil => rfl
  | cons step rest ih =>
    obtain ⟨-, same⟩ := take_fixed run regular.orderly.timers step
    exact (ih regular.take).trans same

/-- A rejection that is hidden stays hidden. -/
theorem Regular.stays_hidden {error : CommitError} (steps : List Step)
    (regular : run.Regular (run.ordersAlong steps))
    (issued : error.id.number < run.engine.app.fresh.number)
    (hidden : run.engine.app.shown ≠ some error) :
    (run.follow steps).engine.app.shown ≠ some error := by
  induction steps generalizing run with
  | nil => exact hidden
  | cons step rest ih =>
    obtain ⟨older, absent⟩ := regular.hidden issued hidden step
    exact ih regular.take older absent

/-- A rejection is shown, with its timer armed, as long as no step ends its time. -/
theorem Regular.lasts {error : CommitError} {due : Nat} (steps : List Step)
    (regular : run.Regular (run.ordersAlong steps)) (armed : run.engine.Armed error due) :
    ((∀ passed next rest, steps = passed ++ next :: rest →
        ¬ (run.follow passed).Ends next due) ∧ (run.follow steps).engine.Armed error due) ∨
      (∃ passed next rest, steps = passed ++ next :: rest ∧
        (run.follow passed).Ends next due) ∧
          (run.follow steps).engine.app.shown ≠ some error := by
  -- The run moves on with each step, while the rejection and its time stay the same.
  induction steps generalizing run with
  | nil =>
    refine .inl ⟨?_, armed⟩
    intro passed next rest split
    exact absurd split.symm (List.append_ne_nil_of_right_ne_nil _ (List.cons_ne_nil _ _))
  | cons step rest ih =>
    obtain ⟨ends, hidden⟩ | ⟨goes, kept⟩ := regular.armed armed step
    · have issued := regular.orderly.issued error armed.shown
      have older := Nat.lt_of_lt_of_le issued (regular.fresh step)
      exact .inr ⟨⟨[], step, rest, rfl, ends⟩, regular.take.stays_hidden rest older hidden⟩
    · obtain ⟨last, still⟩ | ⟨⟨passed, next, later, split, ends⟩, hidden⟩ :=
        ih regular.take kept
      · refine .inl ⟨?_, still⟩
        intro passed next later split
        cases passed with
        | nil =>
          obtain ⟨rfl, -⟩ := List.cons.inj split
          exact goes
        | cons first others =>
          obtain ⟨rfl, tail⟩ := List.cons.inj split
          exact last others next later tail
      · exact .inr ⟨⟨step :: passed, next, later, congrArg _ split, ends⟩, hidden⟩

/-- A rejection that is shown after some steps was shown before them or is one of theirs. -/
theorem Regular.origin {error : CommitError} (steps : List Step)
    (regular : run.Regular (run.ordersAlong steps))
    (visible : (run.follow steps).engine.app.shown = some error) :
    run.engine.app.shown = some error ∨ ∃ before step after,
      steps = before ++ step :: after ∧ (run.follow before).Refuses step error := by
  induction steps generalizing run with
  | nil => exact .inl visible
  | cons step rest ih =>
    obtain shown | ⟨before, next, after, split, refuses⟩ := ih regular.take visible
    · obtain earlier | refuses := regular.shown shown
      · exact .inl earlier
      · exact .inr ⟨[], step, rest, rfl, refuses⟩
    · exact .inr ⟨step :: before, next, after, congrArg _ split, refuses⟩

/-- From the step that refuses a name on, a rejection is armed as long as no step ends its
time, and else it is not shown. -/
theorem Regular.lifetime {error : CommitError} (before : List Step) (step : Step)
    (after : List Step) (regular : run.Regular (run.ordersAlong (before ++ step :: after)))
    (refuses : (run.follow before).Refuses step error) (due : Nat)
    (reckoned : due = (run.follow before).engine.now + run.engine.app.errorTimeout) :
    ((∀ passed next rest, after = passed ++ next :: rest →
        ¬ (run.follow (before ++ step :: passed)).Ends next due) ∧
          (run.follow (before ++ step :: after)).engine.Armed error due) ∨
      (∃ passed next rest, after = passed ++ next :: rest ∧
        (run.follow (before ++ step :: passed)).Ends next due) ∧
          (run.follow (before ++ step :: after)).engine.app.shown ≠ some error := by
  have parts : ∀ passed, run.follow (before ++ step :: passed) =
      ((run.follow before).take step).follow passed := fun passed => follow_append ..
  rw [ordersAlong_append] at regular
  have there : (run.follow before).Regular
      ((run.follow before).orders step + ((run.follow before).take step).ordersAlong after) :=
    regular.follow before
  have within : run.Regular (run.ordersAlong before) := by
    have room := regular.room
    exact ⟨regular.orderly, regular.manual, by omega⟩
  have armed := there.refuses refuses
  rw [within.errorTimeout, ← reckoned] at armed
  simp only [parts]
  exact there.take.lasts after armed

/-- A run that is started on a header without a rejection is regular as long as there is
room. -/
theorem start_regular (engine : Engine) (display : Terminal.Display) (size : Terminal.Size)
    (orders : Nat) (silent : engine.app.shown = none) (idle : engine.schedule = {})
    (manual : ∀ key id, engine.bindings.resolve? key ≠ some (.expireError id))
    (room : orders < Schedule.greatestVersion) : (start engine display size).Regular orders := by
  have still : (start engine display size).engine.schedule = {} := idle
  have hidden : (start engine display size).engine.app.shown = none := silent
  refine ⟨⟨⟨?_, ?_⟩, ?_, ?_⟩, manual, ?_⟩
  · rw [still]
    exact Schedule.empty_bounded
  · rw [still]
    exact nofun
  · rw [hidden]
    exact nofun
  · rw [hidden]
    exact nofun
  · rw [still]
    exact (Nat.zero_add orders).symm ▸ room

/-- In every run on a header that shows no rejection at first, a rejection that is shown was
refused by some step, the edit keeps it, and its expiry is all that is current under the error
timer, due when its time is over. It is shown from that step until the first step that refuses
another name, leaves the edit, or drains at that time or later. -/
theorem rejection_shown_until_ended (header : Header) (store : Config.Store)
    (source : Config.Source) (errorTimeout : Nat) (fresh : ErrorId)
    (bindings : App.Bindings) (now : Nat) (display : Terminal.Display) (size : Terminal.Size)
    (run : Run) (steps : List Step)
    (begun : run =
      start { app := App.start header store source errorTimeout fresh, bindings, now } display
        size)
    (silent : header.visibleError = none)
    (manual : ∀ key id, bindings.resolve? key ≠ some (.expireError id))
    (few : run.ordersAlong steps < Schedule.greatestVersion) :
    (∀ error, (run.follow steps).engine.app.shown = some error →
      ∃ before step after, steps = before ++ step :: after ∧
        (run.follow before).Refuses step error ∧
        (run.follow steps).engine.Armed error
          ((run.follow before).engine.now + errorTimeout)) ∧
      ∀ before step after error, steps = before ++ step :: after →
        (run.follow before).Refuses step error →
          ((run.follow steps).engine.app.shown = some error ↔
            ∀ passed next rest, after = passed ++ next :: rest →
              ¬ (run.follow (before ++ step :: passed)).Ends next
                ((run.follow before).engine.now + errorTimeout)) := by
  have regular : run.Regular (run.ordersAlong steps) := by
    subst begun
    exact start_regular _ display size _ silent rfl manual few
  have hidden : run.engine.app.shown = none := by
    rw [begun]
    exact silent
  have timeout : run.engine.app.errorTimeout = errorTimeout := by
    rw [begun]
    rfl
  constructor
  · intro error visible
    obtain shown | ⟨before, step, after, rfl, refuses⟩ := regular.origin steps visible
    · rw [hidden] at shown
      contradiction
    · refine ⟨before, step, after, rfl, refuses, ?_⟩
      obtain ⟨-, armed⟩ | ⟨-, absent⟩ :=
        regular.lifetime before step after refuses _ (congrArg _ timeout.symm)
      · exact armed
      · exact absurd visible absent
  · rintro before step after error rfl refuses
    obtain ⟨lasts, armed⟩ | ⟨⟨passed, next, rest, split, ends⟩, absent⟩ :=
      regular.lifetime before step after refuses _ (congrArg _ timeout.symm)
    · exact ⟨fun _ => lasts, fun _ => armed.shown⟩
    · exact ⟨fun shown => absurd shown absent,
        fun lasts => absurd ends (lasts passed next rest split)⟩

/-- A refused empty name is still shown after it is drained in time, and the next draining
hides it. -/
theorem rejection_shown_until_due :
    let header := (Header.start {} "" ["alpha"] { kind := .channel } .first).header
    let engine : Engine :=
      { app := App.start header {} (.fixed {}) 3000 .first, bindings := .standard, now := 5 }
    let run := start engine ⟨⟨80, 24⟩, []⟩ ⟨80, 24⟩
    let refused : List Step := [.event (.key ⟨.char '/', {}⟩), .event (.key ⟨.enter, {}⟩)]
    (run.follow (refused ++ [.wait 2999, .drain])).engine.app.shown = some ⟨.first, ""⟩ ∧
      (run.follow (refused ++ [.wait 2999, .drain, .wait 1, .drain])).engine.app.shown ≠
        some ⟨.first, ""⟩ := by
  intro header engine run refused
  refine ⟨by decide +kernel, ?_⟩
  intro shown
  have few : run.ordersAlong (refused ++ [.wait 2999, .drain, .wait 1, .drain]) <
      Schedule.greatestVersion := by decide +kernel
  have lifetimes := (rejection_shown_until_ended header {} (.fixed {}) 3000 .first .standard 5
    ⟨⟨80, 24⟩, []⟩ ⟨80, 24⟩ run _ rfl rfl standard_manual few).2
  have refuses : (run.follow [.event (.key ⟨.char '/', {}⟩)]).Refuses
      (.event (.key ⟨.enter, {}⟩)) ⟨.first, ""⟩ :=
    ⟨by decide +kernel, by decide +kernel, by decide +kernel⟩
  have lifetime := lifetimes _ _ [.wait 2999, .drain, .wait 1, .drain] _ rfl refuses
  exact lifetime.mp shown [.wait 2999, .drain, .wait 1] .drain [] rfl
    (.inr (.inr ⟨rfl, by decide +kernel⟩))

/-- A header that shows a rejection can be put into an application. No timer was armed for this
rejection, and it is still shown when its time is long over. -/
theorem rejection_brought_along :
    let opened := Header.start {} "" ["alpha"] { kind := .channel } .first
    let edited := opened.header.dispatch .edit opened.fresh
    let refused := edited.header.dispatch (.commit "nope") edited.fresh
    let app := App.start refused.header {} (.fixed {}) 3000 refused.fresh
    let run := start { app, bindings := .standard, now := 5 } ⟨⟨80, 24⟩, []⟩ ⟨80, 24⟩
    let later := run.follow [.wait 1000000, .drain]
    later.engine.app.shown = some ⟨.first, "nope"⟩ ∧
      ∀ error due, ¬ later.engine.Armed error due := by
  intro opened edited refused app run later
  refine ⟨by decide +kernel, ?_⟩
  intro error due armed
  have idle : later.engine.schedule.tasks = [] := by decide +kernel
  have timer := armed.timer
  rw [Schedule.live, idle] at timer
  contradiction

end DatasetPicker.Run
