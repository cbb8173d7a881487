import DatasetPicker.Config.Response
import DatasetPicker.Journal

/-!
# Sources of the configuration

Where snapshots come from: a fixed snapshot, a saved response, or a server. To the rest
of the program a source is the answers that its next fetches give; the last of them
stands for all later fetches.
-/

namespace DatasetPicker.Config

/-- The outcome of one fetch, with what it reports. -/
structure Answer where
  outcome : Except Failure Snapshot
  records : List Journal.Record := []

/-- The answers to come. -/
structure Source where
  next : Answer
  later : List Answer := []

namespace Source

/-- A source that always gives the same snapshot. -/
def fixed (snapshot : Snapshot) : Source := { next := { outcome := .ok snapshot } }

/-- A source that always gives the same outcome. -/
def always (outcome : Except Failure Snapshot) : Source := { next := { outcome } }

/-- A source that gives outcomes in turn; without any it gives the default snapshot. -/
def script : List (Except Failure Snapshot) → Source
  | [] => fixed {}
  | outcome :: rest => { next := { outcome }, later := rest.map ({ outcome := · }) }

/-- A server at an address, with the outcome of every request to it. -/
def server (url : String) (outcome : Except Failure Snapshot) : Source :=
  { next :=
      { outcome
        records :=
          [{ level := .debug
             speaker := .source
             message := "requesting app config"
             items := [.value "url" url] }] } }

/-- The next answer, and the source after it. -/
def fetch (source : Source) : Answer × Source :=
  match source.later with
  | [] => (source.next, source)
  | answer :: rest => (source.next, { next := answer, later := rest })

end Source

end DatasetPicker.Config
