import DatasetPicker.App.Command
import DatasetPicker.Header.View

/-!
# The state of the application

The header, the configuration with its source, the palette made from it, and the layout
of the last view, which says what a click is on.
-/

namespace DatasetPicker

/-- The application. -/
structure App where
  header : Header
  store : Config.Store
  source : Config.Source
  palette : Palette
  /-- The layout of the last view. -/
  layout : Layout := {}
  /-- How long a rejection is shown, in milliseconds. -/
  errorTimeout : Nat
  exiting : Bool := false
  /-- The id for the next rejection. -/
  fresh : Selector.ErrorId

namespace App

/-- The view of the application as it is now. -/
def currentView (app : App) : View := View.render app.header app.palette

/-- Draws the view and remembers its layout. -/
def view (app : App) : App × View :=
  let view := app.currentView
  ({ app with layout := view.layout }, view)

/-- A new application. -/
def start (header : Header) (store : Config.Store) (source : Config.Source)
    (errorTimeout : Nat) (fresh : Selector.ErrorId) : App :=
  (view
    { header, store, source, errorTimeout, fresh, palette := Palette.ofStore store }).1

/-- The record of a configuration that changed. -/
def reloadRecord (revision : Nat) : Journal.Record :=
  { level := .info
    speaker := .state
    message := "app config reloaded"
    items := [.value "revision" (toString revision)] }

/-- Fetches the configuration again; the palette follows a change. -/
def reload (app : App) : App × Bool × List Journal.Record :=
  let (answer, source) := app.source.fetch
  let (store, changed, records) := app.store.loadOrKeep answer
  if changed then
    ({ app with source, store, palette := Palette.ofStore store }, true,
      records ++ [reloadRecord store.revision])
  else ({ app with source, store }, false, records)

/-- Takes over the outcome of an operation on the header. -/
def withOutcome (app : App) (outcome : Header.Outcome) : App :=
  { app with header := outcome.header, fresh := outcome.fresh }

/-- Replaces the feed of datasets. -/
def setDatasets (app : App) (active : String) (datasets : List String) :
    App × List Journal.Record :=
  let outcome := app.header.setDatasets active datasets app.fresh
  (app.withOutcome outcome, outcome.records)

end App

end DatasetPicker
