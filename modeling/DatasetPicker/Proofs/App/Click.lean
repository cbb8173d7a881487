import DatasetPicker.Proofs.App.Dialogue
import DatasetPicker.Proofs.App.Engine
import DatasetPicker.Proofs.App.Screen
import DatasetPicker.Proofs.Header.Reached
import DatasetPicker.Proofs.Header.Window
import DatasetPicker.Proofs.Selector.Choice

/-!
# Clicks on results

A click is looked up in the layout of the view that is seen, and selects from the results as
they are. Because the view is the one of the application as it is, the name on the row that
was clicked is the name that is committed, and because results are known values, it is never
refused.
-/

namespace DatasetPicker

open Backend (Message)

namespace Header

/-- The messages that tell the server of an accepted value. -/
def announcement (header : Header) (value : String) : List Message :=
  if value = header.session.context.committed then [] else [.setDataset value]

/-- What can be read in these messages: that a dataset is set, and its name, unless it was committed
before. -/
theorem announcement_read (header : Header) (value : String) :
    (header.announcement value).map (fun message => (message.kind, message.payload)) =
      if value = header.session.context.committed then []
      else [("set_dataset", [("dataset_name", .string value)])] := by
  unfold announcement
  split <;> rfl

/-- Selecting a result accepts it and sends its name if that is another one than before. -/
theorem Reached.select {header : Header} (reached : header.Reached) (index : Nat) (name : String)
    (fresh : Selector.ErrorId) (editing : header.session.mode.isEditing = true)
    (listed : header.session.context.results[index]? = some name) :
    (header.session.perform (.select index) fresh).Accepts header.session.context name fresh ∧
      (header.perform (.select index) fresh).header.backend =
        header.backend.sendAll (header.announcement name) := by
  have known : name ∈ header.session.context.values :=
    reached.coherent.offering.results.subset (List.mem_of_getElem? listed)
  have accepts := header.session.perform_select fresh index name editing listed known
  refine ⟨accepts, ?_⟩
  rw [perform_backend, accepts.told, reached.listener, announcement]
  split <;> rfl

end Header

namespace App

/-- A click on the row of a result selects the result, whatever the column. -/
theorem click_result (app : App) (column row index : Nat) (editing : isEditing app = true)
    (below : 0 < row) (found : app.layout.resultAt? row = some index) :
    click app column row = operate app (.select index) := by
  have logo : app.layout.hitsLogo column row = false := by
    rw [Layout.hitsLogo, beq_false_of_ne (Nat.ne_of_gt below), Bool.false_and]
  simp only [click, logo, editing, found, if_pos, Bool.false_eq_true, if_false]

/-- An operation that uses up no id arms no timer. -/
theorem operate_unarmed (app : App) (operation : Selector.Operation)
    (feed : operation.isFeed = false) (unused : (operate app operation).app.fresh = app.fresh)
    (key : String) (delay : Nat) (command : Command) :
    .debounce key delay command ∉ (operate app operation).effects := by
  cases operate_rejection app operation feed with
  | leaves _ shown kept effects => rw [effects]; simp
  | ends _ hidden ended effects => rw [effects]; simp
  | refuses error issued used shown editing marked effects =>
    exact absurd (unused.symm.trans used) app.fresh.ne_next

/-- Whatever a command does to a header, it leaves one that can be reached. -/
theorem reduce_reached (app : App) (command : Command) (reached : app.header.Reached) :
    (reduce app command).app.header.Reached := by
  cases reduce_course app command with
  | operates operation feed does => rw [does]; exact reached.perform operation feed app.fresh
  | refreshes does =>
    obtain ⟨store, source, palette, changed⟩ := refresh_changes app
    rw [does, changed]
    exact reached.activateLogo
  | exits does => rw [does]; exact reached
  | expires id asked does => rw [does]; exact reached.expireError id
  | rests does => rw [does]; exact reached

end App

/-- A command that operates on the selector does so to the application, which is then drawn. -/
theorem Engine.process_operates (engine : Engine) (command : App.Command)
    (operation : Selector.Operation)
    (operates : App.reduce engine.app command = App.operate engine.app operation) :
    (∃ layout, (engine.process command).engine.app =
        { (App.operate engine.app operation).app with layout }) ∧
      (engine.process command).effects = (App.operate engine.app operation).effects := by
  obtain ⟨layout, processed⟩ := engine.process_engine command
  rw [operates] at processed
  exact ⟨⟨layout, congrArg Engine.app processed⟩, congrArg App.Reduction.effects operates⟩

/-- A click on the row of a result, in any column, ends the edit with that result committed.
Nothing is refused, and the server is told if it is another one than before. -/
theorem Engine.process_click (engine : Engine) (column row index : Nat) (name : String)
    (reached : engine.app.header.Reached) (editing : App.isEditing engine.app = true)
    (below : 0 < row) (found : engine.app.layout.resultAt? row = some index)
    (listed : engine.app.header.session.context.results[index]? = some name) :
    let clicked := engine.process (.pointer ⟨.click, column, row⟩)
    clicked.engine.app.header.session =
        ⟨.reading, engine.app.header.session.context.accept name⟩ ∧
      clicked.engine.app.fresh = engine.app.fresh ∧
      (∀ key delay command, .debounce key delay command ∉ clicked.effects) ∧
      clicked.engine.app.header.backend =
        engine.app.header.backend.sendAll (engine.app.header.announcement name) := by
  intro clicked
  obtain ⟨accepts, sent⟩ := reached.select index name engine.app.fresh editing listed
  have selects : App.reduce engine.app (.pointer ⟨.click, column, row⟩) =
      App.operate engine.app (.select index) :=
    engine.app.click_result column row index editing below found
  obtain ⟨⟨layout, after⟩, effects⟩ : (∃ layout, clicked.engine.app =
      { (App.operate engine.app (.select index)).app with layout }) ∧
        clicked.effects = (App.operate engine.app (.select index)).effects :=
    engine.process_operates _ (.select index) selects
  rw [after, effects]
  exact ⟨accepts.ended, accepts.unused,
    engine.app.operate_unarmed (.select index) rfl accepts.unused, sent⟩

namespace Watched

variable {watched : Watched}

/-- What every command keeps true of the header stays true along commands. -/
theorem follow_header {holds : Header → Prop}
    (kept : ∀ (app : App) (command : App.Command), holds app.header →
      holds (App.reduce app command).app.header)
    (commands : List App.Command) (before : holds watched.engine.app.header) :
    holds (watched.follow commands).engine.app.header := by
  induction commands generalizing watched with
  | nil => exact before
  | cons command rest ih =>
    apply ih
    obtain ⟨layout, after⟩ := watched.engine.process_engine command
    change holds (watched.engine.process command).engine.app.header
    rw [after]
    exact kept watched.engine.app command before

/-- Along commands the header stays one that can be reached. -/
theorem follow_reached (commands : List App.Command)
    (reached : watched.engine.app.header.Reached) :
    (watched.follow commands).engine.app.header.Reached :=
  follow_header App.reduce_reached commands reached

/-- Along commands the header stays connected to the server. -/
theorem follow_connected (commands : List App.Command)
    (connected : watched.engine.app.header.Connected) :
    (watched.follow commands).engine.app.header.Connected := by
  refine follow_header ?_ commands connected
  intro app command before
  obtain ⟨messages, sends⟩ := App.reduce_sends app command before
  exact sends.connected

/-- The view shows no name on a row where the layout has no result. -/
theorem Current.row_unnamed (current : watched.Current)
    (editing : App.isEditing watched.engine.app = true) (row : Nat)
    (missed : watched.engine.app.layout.resultAt? row = none) :
    (watched.seen.frame.lines[row]?).bind View.resultName? = none := by
  have names := View.row_names watched.engine.app.header watched.engine.app.palette editing row
  rw [current.layout, current.current] at missed
  rw [current.current]
  exact names.trans (congrArg (Option.bind · _) missed)

/-- On a row where the layout has a result, the view shows the name of that result. The row
is below the first line. -/
theorem Current.row_named (current : watched.Current)
    (editing : App.isEditing watched.engine.app = true) (row index : Nat)
    (found : watched.engine.app.layout.resultAt? row = some index) :
    0 < row ∧ ∃ name,
      (watched.seen.frame.lines[row]?).bind View.resultName? = some name ∧
        watched.engine.app.header.session.context.results[index]? = some name := by
  have names := View.row_names watched.engine.app.header watched.engine.app.palette editing row
  rw [current.layout, current.current] at found
  obtain ⟨below, inside⟩ := View.resultAt_inside _ _ row index found
  have listed := List.getElem?_eq_getElem inside
  refine ⟨below, _, ?_, listed⟩
  rw [current.current]
  exact (names.trans (congrArg (Option.bind · _) found)).trans listed

/-- While a name is edited, the rows of the view that carry a name are the rows where the
layout has a result, and the result is that name. A click on such a row, in any column, ends
the edit with this name committed: nothing is refused, and one message that sets the dataset to
this name is sent if it is another one than before, and else none. On a backend that delivers,
just what is sent arrives. -/
theorem click_commits_seen (header : Header) (store : Config.Store) (source : Config.Source)
    (errorTimeout : Nat) (fresh : Selector.ErrorId) (commands : List App.Command)
    (watched : Watched)
    (begun : watched = (start header store source errorTimeout fresh).follow commands)
    (reached : header.Reached) (editing : App.isEditing watched.engine.app = true) (row : Nat) :
    let app := watched.engine.app
    let name? := (watched.seen.frame.lines[row]?).bind View.resultName?
    (name?.isSome = true ↔ ∃ index, app.layout.resultAt? row = some index) ∧
      ∀ index, app.layout.resultAt? row = some index →
        ∃ name, name? = some name ∧ app.header.session.context.results[index]? = some name ∧
          ∀ column,
            let clicked := watched.engine.process (.pointer ⟨.click, column, row⟩)
            let after := clicked.engine.app
            after.header.session.mode = .reading ∧
              after.header.session.context.committed = name ∧
              after.header.session.context.error = none ∧ after.fresh = app.fresh ∧
              (∀ key delay command, .debounce key delay command ∉ clicked.effects) ∧
              ∃ messages : List Message,
                messages.map (fun message => (message.kind, message.payload)) =
                    (if name = app.header.session.context.committed then []
                    else [("set_dataset", [("dataset_name", .string name)])]) ∧
                  after.header.backend.given = app.header.backend.given ++ messages ∧
                  (header.backend.kind = .channel ∨ header.backend.kind = .writer →
                    after.header.backend.arrived = app.header.backend.arrived ++ messages) := by
  intro app name?
  have current : watched.Current := by
    rw [begun]
    exact (start_current header store source errorTimeout fresh).follow commands
  have attained : app.header.Reached := by
    change watched.engine.app.header.Reached
    rw [begun]
    exact follow_reached commands reached
  refine ⟨⟨?_, ?_⟩, ?_⟩
  · intro named
    cases found : app.layout.resultAt? row with
    | none =>
      have unnamed : name? = none := current.row_unnamed editing row found
      rw [unnamed] at named
      contradiction
    | some index => exact ⟨index, rfl⟩
  · rintro ⟨index, found⟩
    obtain ⟨-, name, shown, -⟩ := current.row_named editing row index found
    exact Option.isSome_of_eq_some shown
  · intro index found
    obtain ⟨below, name, shown, listed⟩ := current.row_named editing row index found
    refine ⟨name, shown, listed, ?_⟩
    intro column clicked after
    obtain ⟨session, unused, unarmed, sent⟩ :=
      watched.engine.process_click column row index name attained editing below found listed
    refine ⟨?_, ?_, ?_, unused, unarmed, app.header.announcement name,
      app.header.announcement_read name, ?_, ?_⟩
    · exact congrArg Selector.Session.mode session
    · exact congrArg (·.context.committed) session
    · exact congrArg (·.context.error) session
    · exact (congrArg Backend.given sent).trans (app.header.backend.sendAll_given _)
    · intro delivers
      have connected : app.header.Connected := by
        change watched.engine.app.header.Connected
        rw [begun]
        exact follow_connected commands ⟨reached.listener, delivers⟩
      exact (congrArg Backend.arrived sent).trans
        (app.header.backend.sendAll_arrived _ connected.delivers)

/-- After the list was scrolled, a click on the row below the line about what is above it
commits the third name, which can be read there, and the writer receives one message with it. -/
theorem click_commits_seen_scrolled :
    let names := ["a", "b", "c", "d", "e", "f", "g", "h", "i", "j"]
    let header := (Header.start {} "a" names { kind := .writer } .first).header
    let commands := App.Command.edit :: List.replicate 10 .nextResult
    let watched := (start header {} (.fixed {}) 3000 .first).follow commands
    App.isEditing watched.engine.app = true ∧
      watched.engine.app.layout.resultAt? 1 = none ∧
      watched.engine.app.layout.resultAt? 2 = some 2 ∧
      ∃ name, (watched.seen.frame.lines[2]?).bind View.resultName? = some name ∧
        let after := (watched.engine.process (.pointer ⟨.click, 7, 2⟩)).engine.app.header
        after.committed = name ∧
          after.backend.arrived.map (fun message => (message.kind, message.payload)) =
            [("set_dataset", [("dataset_name", .string name)])] := by
  intro names header commands watched
  have editing : App.isEditing watched.engine.app = true := by decide +kernel
  have found : watched.engine.app.layout.resultAt? 2 = some 2 := by decide +kernel
  obtain ⟨-, rows⟩ := click_commits_seen header {} (.fixed {}) 3000 .first commands watched rfl
    (.start {} "a" names { kind := .writer } .first) editing 2
  obtain ⟨name, shown, listed, clicks⟩ := rows 2 found
  obtain ⟨-, committed, -, -, -, messages, read, -, arrives⟩ := clicks 7
  have third : some name = some "c" := listed.symm.trans (by decide +kernel)
  have other : name ≠ watched.engine.app.header.session.context.committed := by
    obtain rfl := Option.some.inj third
    decide +kernel
  rw [if_neg other] at read
  have before : watched.engine.app.header.backend.arrived = [] :=
    List.length_eq_zero_iff.mp (by decide +kernel)
  refine ⟨editing, by decide +kernel, found, name, shown, committed, ?_⟩
  rw [arrives (.inr rfl), before, List.nil_append]
  exact read

end Watched

end DatasetPicker
