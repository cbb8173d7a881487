import DatasetPicker.Config.Source

/-!
# The store of the configuration

The store keeps the last snapshot that was fetched and counts its changes. A fetch that
fails, or that brings the snapshot that is already there, leaves the store as it is; the
first fetch counts as a change whatever it brings.
-/

namespace DatasetPicker.Config

/-- The last snapshot and the number of changes. -/
structure Store where
  snapshot : Snapshot := {}
  revision : Nat := 0
  deriving DecidableEq, Repr

/-- The outcome of loading: the store afterwards, and whether it changed. -/
structure Loaded where
  store : Store
  outcome : Except Failure Bool
  records : List Journal.Record := []

namespace Store

/-- A store that begins with a snapshot. -/
def ofSnapshot (snapshot : Snapshot) : Store := { snapshot, revision := 1 }

/-- The record of the revision after a load. -/
def revisionRecord (message : String) (revision : Nat) : Journal.Record :=
  { level := .debug
    speaker := .store
    message
    items := [.value "revision" (toString revision)] }

/-- Takes over a fetched snapshot. -/
def update (store : Store) (snapshot : Snapshot) : Loaded :=
  if snapshot = store.snapshot ∧ 0 < store.revision then
    { store
      outcome := .ok false
      records := [revisionRecord "app config unchanged" store.revision] }
  else
    { store := { snapshot, revision := store.revision + 1 }
      outcome := .ok true
      records := [revisionRecord "app config updated" (store.revision + 1)] }

/-- Loads an answer. -/
def load (store : Store) (answer : Answer) : Loaded :=
  match answer.outcome with
  | .ok snapshot =>
    let loaded := store.update snapshot
    { loaded with records := answer.records ++ loaded.records }
  | .error failure => { store, outcome := .error failure, records := answer.records }

/-- The warning about a failed load. -/
def keepWarning (failure : Failure) : Journal.Record :=
  { level := .warn
    speaker := .store
    message := "failed to load app config; keeping previous values"
    items := [.value "error" failure.message] }

/-- Loads an answer and treats a failure as no change. -/
def loadOrKeep (store : Store) (answer : Answer) : Store × Bool × List Journal.Record :=
  let loaded := store.load answer
  match loaded.outcome with
  | .ok changed => (loaded.store, changed, loaded.records)
  | .error failure => (loaded.store, false, loaded.records ++ [keepWarning failure])

/-- The colour scale of the last snapshot. -/
def colourScale (store : Store) : List Rgb := store.snapshot.colourScale

/-- The settings of the last snapshot. -/
def config (store : Store) : AppConfig := store.snapshot.config

/-- The colour pool of the last snapshot. -/
def colourPool (store : Store) : List String := store.snapshot.config.colourPool

end Store

end DatasetPicker.Config
