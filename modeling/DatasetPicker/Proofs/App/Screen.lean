import DatasetPicker.App.Engine
import DatasetPicker.Proofs.App.Reduce

/-!
# The screen

A command that changes what a view is made of asks to draw, and the palette is made anew with
every change of the configuration. So the view that was drawn last is the one of the
application as it is, and a click is looked up in the layout that is on the screen.
-/

namespace DatasetPicker

/-- An engine with the view that was drawn last. -/
structure Watched where
  engine : Engine
  seen : View

namespace Watched

/-- A new application that is drawn for the first time. -/
def start (header : Header) (store : Config.Store) (source : Config.Source)
    (errorTimeout : Nat) (fresh : Selector.ErrorId) : Watched :=
  let (app, seen) := (App.start header store source errorTimeout fresh).view
  { engine := { app }, seen }

/-- Runs a command. What is seen stays until another view is drawn. -/
def take (watched : Watched) (command : App.Command) : Watched :=
  let processed := watched.engine.process command
  { engine := processed.engine, seen := processed.view.getD watched.seen }

/-- Runs commands in order. -/
def follow (watched : Watched) (commands : List App.Command) : Watched :=
  commands.foldl take watched

end Watched

/-! ## The palette -/

/-- Loading an answer without a change leaves the store as it is. -/
theorem Config.Store.loadOrKeep_unchanged (store : Store) (answer : Answer)
    (kept : (store.loadOrKeep answer).2.1 = false) : (store.loadOrKeep answer).1 = store := by
  obtain ⟨outcome, records⟩ := answer
  cases outcome with
  | error failure => rfl
  | ok snapshot =>
    by_cases same : snapshot = store.snapshot ∧ 0 < store.revision
    · simp [loadOrKeep, load, update, same]
    · simp [loadOrKeep, load, update, same] at kept

namespace App

/-- The palette is the one of the configuration. -/
def Coloured (app : App) : Prop := app.palette = Palette.ofStore app.store

/-- Fetching the configuration again keeps the palette with it. -/
theorem reload_coloured (app : App) (coloured : app.Coloured) : app.reload.1.Coloured := by
  unfold reload
  cases changed : (app.store.loadOrKeep app.source.fetch.1).2.1 with
  | true =>
    simp only [changed, if_pos]
    rfl
  | false =>
    have same := app.store.loadOrKeep_unchanged app.source.fetch.1 changed
    simp only [changed, same]
    exact coloured

/-- Every command keeps the palette with the configuration. -/
theorem reduce_coloured (app : App) (command : Command) (coloured : app.Coloured) :
    (reduce app command).app.Coloured := by
  cases reduce_course app command with
  | operates operation feed does => rw [does]; exact coloured
  | refreshes does =>
    rw [does]
    exact reload_coloured { app with header := app.header.activateLogo.1 } coloured
  | exits does => rw [does]; exact coloured
  | expires id asked does => rw [does]; exact coloured
  | rests does => rw [does]; exact coloured

end App

/-! ## Commands that do not draw -/

namespace App

/-- A command that does not ask to draw leaves the application as it is, but it may tell it
to exit. -/
theorem reduce_silent (app : App) (command : Command)
    (silent : .render ∉ (reduce app command).effects) :
    ∃ exiting, (reduce app command).app = { app with exiting } := by
  cases reduce_course app command with
  | operates operation feed does =>
    rw [does] at silent
    exact absurd (List.mem_cons_self ..) silent
  | refreshes does =>
    rw [does] at silent
    exact absurd (List.mem_cons_self ..) silent
  | exits does => exact ⟨true, by rw [does]⟩
  | expires id asked does =>
    rw [does] at silent ⊢
    cases missed : (app.header.expireError id).2 with
    | true => simp [missed] at silent
    | false =>
      refine ⟨app.exiting, ?_⟩
      rw [app.header.expireError_missed id missed]
  | rests does => exact ⟨app.exiting, by rw [does]; rfl⟩

end App

/-! ## Drawing -/

namespace Engine

/-- Effects that ask to draw draw the view. -/
theorem drawIfAsked_asked (app : App) (effects : List App.Effect) (asked : .render ∈ effects) :
    drawIfAsked app effects = (app.view.1, some app.currentView) := by
  rw [drawIfAsked, if_pos (List.contains_iff_mem.mpr asked)]
  rfl

/-- Other effects draw nothing. -/
theorem drawIfAsked_silent (app : App) (effects : List App.Effect) (silent : .render ∉ effects) :
    drawIfAsked app effects = (app, none) := by
  rw [drawIfAsked, if_neg (mt List.contains_iff_mem.mp silent)]

variable (engine : Engine) (command : App.Command)

/-- A command that asks to draw draws the application that it leaves. -/
theorem process_drawn (asked : .render ∈ (App.reduce engine.app command).effects) :
    (engine.process command).engine.app = (App.reduce engine.app command).app.view.1 ∧
      (engine.process command).view = some (App.reduce engine.app command).app.currentView := by
  have drawn := drawIfAsked_asked (App.reduce engine.app command).app _ asked
  exact ⟨congrArg Prod.fst drawn, congrArg Prod.snd drawn⟩

/-- A command that does not ask to draw draws nothing. -/
theorem process_undrawn (silent : .render ∉ (App.reduce engine.app command).effects) :
    (engine.process command).engine.app = (App.reduce engine.app command).app ∧
      (engine.process command).view = none := by
  have undrawn := drawIfAsked_silent (App.reduce engine.app command).app _ silent
  exact ⟨congrArg Prod.fst undrawn, congrArg Prod.snd undrawn⟩

end Engine

/-- A view shows the application as it is: in the colours of the configuration, and with the
layout that clicks are looked up in. -/
structure App.SeenAs (app : App) (view : View) : Prop where
  coloured : app.Coloured
  current : view = app.currentView
  layout : app.layout = view.layout

namespace Watched

variable {watched : Watched}

/-- What is seen shows the application as it is. -/
def Current (watched : Watched) : Prop := watched.engine.app.SeenAs watched.seen

/-- A new application is seen as it is. -/
theorem start_current (header : Header) (store : Config.Store) (source : Config.Source)
    (errorTimeout : Nat) (fresh : Selector.ErrorId) :
    (start header store source errorTimeout fresh).Current :=
  ⟨rfl, rfl, rfl⟩

/-- After a command the application is seen as it is. -/
theorem Current.take (current : watched.Current) (command : App.Command) :
    (watched.take command).Current := by
  have coloured := App.reduce_coloured watched.engine.app command current.coloured
  change (watched.engine.process command).engine.app.SeenAs
    ((watched.engine.process command).view.getD watched.seen)
  by_cases asked : .render ∈ (App.reduce watched.engine.app command).effects
  · obtain ⟨after, drawn⟩ := watched.engine.process_drawn command asked
    rw [after, drawn]
    exact ⟨coloured, rfl, rfl⟩
  · obtain ⟨after, undrawn⟩ := watched.engine.process_undrawn command asked
    obtain ⟨exiting, same⟩ := App.reduce_silent watched.engine.app command asked
    rw [after, undrawn, same]
    exact ⟨current.coloured, current.current, current.layout⟩

/-- After any commands the application is seen as it is. -/
theorem Current.follow (current : watched.Current) (commands : List App.Command) :
    (watched.follow commands).Current := by
  induction commands generalizing watched with
  | nil => exact current
  | cons command rest ih => exact ih (current.take command)

/-- After any commands the palette is the one of the configuration, the view that was drawn
last is the one of the header as it is in this palette, and clicks are looked up in its
layout. A command that does not ask to draw changes neither the header nor the palette. -/
theorem never_stale (header : Header) (store : Config.Store) (source : Config.Source)
    (errorTimeout : Nat) (fresh : Selector.ErrorId) (commands : List App.Command) :
    let watched := (start header store source errorTimeout fresh).follow commands
    let app := watched.engine.app
    app.palette = Palette.ofStore app.store ∧
      watched.seen = View.render app.header app.palette ∧
      app.layout = watched.seen.layout ∧
      ∀ command, .render ∉ (App.reduce app command).effects →
        (App.reduce app command).app.header = app.header ∧
          (App.reduce app command).app.palette = app.palette := by
  intro watched app
  have current : watched.Current :=
    (start_current header store source errorTimeout fresh).follow commands
  refine ⟨current.coloured, current.current, current.layout, ?_⟩
  intro command silent
  obtain ⟨exiting, same⟩ := App.reduce_silent app command silent
  rw [same]
  exact ⟨rfl, rfl⟩

end Watched

end DatasetPicker
