import DatasetPicker.Proofs.App.Reduce
import DatasetPicker.Proofs.Header.Exchange

/-!
# What the server knows

Commands and feeds come in any order. The server is told of each choice of another dataset
and of nothing else but refreshes, so the last choice it was told of since the last feed is
what is committed, and it can reckon whether the indicator of a refresh is on.
-/

namespace DatasetPicker.App

open Backend (Message)
open Header (Sends Exchange)

/-- A feed of datasets with the active one. -/
structure Feed where
  active : String
  datasets : List String
  deriving DecidableEq, Repr

/-- What a feed selects: its active value, if that is one of its datasets. -/
def Feed.selected (feed : Feed) : String :=
  if feed.active ∈ feed.datasets then feed.active else ""

/-- What can happen to an application. -/
inductive Step where
  | command (command : Command)
  | feed (feed : Feed)
  | view
  deriving DecidableEq, Repr

/-- An application in use, with its last feed and the messages that had arrived before. -/
structure Served where
  app : App
  feed : Feed
  earlier : List Message

namespace Served

/-- An application that is started on a new header. -/
def start (branding : Branding) (feed : Feed) (backend : Backend) (first : Selector.ErrorId)
    (store : Config.Store) (source : Config.Source) (errorTimeout : Nat)
    (fresh : Selector.ErrorId) : Served :=
  { app :=
      App.start (Header.start branding feed.active feed.datasets backend first).header store
        source errorTimeout fresh
    feed
    earlier := backend.arrived }

/-- Takes a step. -/
def take (served : Served) : Step → Served
  | .command command => { served with app := (reduce served.app command).app }
  | .feed feed =>
    { app := (served.app.setDatasets feed.active feed.datasets).1
      feed
      earlier := served.app.header.backend.arrived }
  | .view => { served with app := served.app.view.1 }

/-- Takes steps in order. -/
def follow (served : Served) (steps : List Step) : Served := steps.foldl take served

end Served

/-! ## One step -/

/-- A command sends at most what the header sends for one thing that happens to it. -/
theorem reduce_sends (app : App) (command : Command) (connected : app.header.Connected) :
    ∃ messages, Sends app.header (reduce app command).app.header messages := by
  cases reduce_course app command with
  | operates operation feed does =>
    rw [does]
    exact app.header.perform_sends connected operation app.fresh feed
  | refreshes does =>
    obtain ⟨store, source, palette, changed⟩ := refresh_changes app
    rw [does, changed]
    exact ⟨_, app.header.activateLogo_sends connected⟩
  | exits does =>
    rw [does]
    exact ⟨[], app.header.sends_nothing connected _ rfl rfl rfl⟩
  | expires id asked does =>
    rw [does]
    exact ⟨[], app.header.expireError_sends connected id⟩
  | rests does =>
    rw [does]
    exact ⟨[], app.header.sends_nothing connected _ rfl rfl rfl⟩

/-- What is committed by a feed is what it selects. -/
theorem Feed.committed_selected (feed : Feed) (listener : Option Selector.Listener) :
    (Selector.Context.feed feed.active feed.datasets listener).committed = feed.selected := by
  by_cases known : feed.active ∈ feed.datasets
  · simp [Selector.Context.feed, selected, known]
  · by_cases nothing : feed.active = ""
    · simp [Selector.Context.feed, selected, nothing]
    · simp [Selector.Context.feed, selected, known, nothing]

/-- What is known of an application that sent some messages, the last of them since its last
feed. -/
structure Served.Agrees (served : Served) (backend : Backend) (sent since : List Message) :
    Prop where
  connected : served.app.header.Connected
  arrived : served.app.header.backend.arrived = backend.arrived ++ sent
  lately : served.app.header.backend.arrived = served.earlier ++ since
  candidates : served.app.header.candidates = served.feed.datasets
  committed : served.app.header.committed =
    (since.filterMap Message.dataset?).getLast?.getD served.feed.selected
  refreshing : served.app.header.refreshing = true ↔ sent.countP Message.isRefresh % 2 = 1

variable {served : Served} {backend : Backend} {sent since : List Message}

/-- What is sent by a header keeps the server in agreement with it. -/
theorem Served.Agrees.sends (agrees : served.Agrees backend sent since) (app : App)
    (messages : List Message) (sends : Sends served.app.header app.header messages) :
    { served with app }.Agrees backend (sent ++ messages) (since ++ messages) := by
  refine ⟨sends.connected, ?_, ?_, sends.candidates.trans agrees.candidates, ?_, ?_⟩
  · rw [sends.arrived, agrees.arrived, List.append_assoc]
  · rw [sends.arrived, agrees.lately, List.append_assoc]
  · rw [sends.exchange.committed_last, agrees.committed, List.filterMap_append,
      List.getLast?_append, Option.getD_or]
  · rw [List.countP_append]
    exact sends.exchange.parity _ agrees.refreshing

/-- A feed puts the server in agreement, with nothing sent since. -/
theorem Served.agrees_fed (served : Served) (header : Header) (fresh : Selector.ErrorId)
    (delivers : header.backend.Delivers)
    (fed : served.app.header =
      (header.setDatasets served.feed.active served.feed.datasets fresh).header)
    (earlier : served.earlier = header.backend.arrived)
    (arrived : header.backend.arrived = backend.arrived ++ sent)
    (refreshing : header.refreshing = true ↔ sent.countP Message.isRefresh % 2 = 1) :
    served.Agrees backend sent [] := by
  obtain ⟨kept, indicator, session⟩ :=
    header.setDatasets_silent served.feed.active served.feed.datasets fresh
  rw [← fed] at kept indicator session
  refine ⟨⟨?_, ?_⟩, ?_, ?_, ?_, ?_, ?_⟩
  · rw [session]
    rfl
  · rw [kept]
    exact delivers
  · rw [kept]
    exact arrived
  · rw [kept, earlier, List.append_nil]
  · rw [Header.candidates, session]
    rfl
  · rw [Header.committed, session]
    exact served.feed.committed_selected _
  · rw [indicator]
    exact refreshing

/-- Drawing changes nothing that the server is told of. -/
theorem Served.Agrees.view (agrees : served.Agrees backend sent since) :
    (served.take .view).Agrees backend sent since :=
  ⟨agrees.connected, agrees.arrived, agrees.lately, agrees.candidates, agrees.committed,
    agrees.refreshing⟩

/-! ## Runs -/

/-- Every step leaves the server in agreement. -/
theorem Served.Agrees.take (agrees : served.Agrees backend sent since) (step : Step) :
    ∃ sent since, (served.take step).Agrees backend sent since := by
  cases step with
  | command command =>
    obtain ⟨messages, sends⟩ := reduce_sends served.app command agrees.connected
    exact ⟨_, _, agrees.sends (reduce served.app command).app messages sends⟩
  | feed feed =>
    exact ⟨_, _, agrees_fed (served.take (.feed feed)) served.app.header served.app.fresh
      agrees.connected.delivers rfl rfl agrees.arrived agrees.refreshing⟩
  | view => exact ⟨_, _, agrees.view⟩

/-- Every sequence of steps leaves the server in agreement. -/
theorem Served.Agrees.follow (agrees : served.Agrees backend sent since) (steps : List Step) :
    ∃ sent since, (served.follow steps).Agrees backend sent since := by
  induction steps generalizing served sent since with
  | nil => exact ⟨_, _, agrees⟩
  | cons step rest ih =>
    obtain ⟨_, _, next⟩ := agrees.take step
    exact ih next

/-- The server agrees with a new header, which has sent nothing. -/
theorem Served.start_agrees (branding : Branding) (feed : Feed) (backend : Backend)
    (first : Selector.ErrorId) (store : Config.Store) (source : Config.Source)
    (errorTimeout : Nat) (fresh : Selector.ErrorId) (delivers : backend.Delivers) :
    (start branding feed backend first store source errorTimeout fresh).Agrees backend
      [] [] := by
  refine agrees_fed _ { branding, session := ⟨.reading, {}⟩, backend } first delivers rfl rfl
    (List.append_nil _).symm ?_
  exact ⟨nofun, nofun⟩

/-- After every run the committed dataset is the last one that the server was told of since
the last feed, or what that feed selected, and the indicator is on when the number of
refreshes is odd. A command sends one message at most: a refresh, or the name of a candidate
that is not committed. Nothing else sends any. -/
theorem server_agrees (branding : Branding) (feed : Feed) (backend : Backend)
    (first : Selector.ErrorId) (store : Config.Store) (source : Config.Source)
    (errorTimeout : Nat) (fresh : Selector.ErrorId) (steps : List Step) (served : Served)
    (reached : served =
      (Served.start branding feed backend first store source errorTimeout fresh).follow steps)
    (delivers : backend.kind = .channel ∨ backend.kind = .writer) :
    (∃ sent since, served.app.header.backend.arrived = backend.arrived ++ sent ∧
      served.app.header.backend.arrived = served.earlier ++ since ∧
      served.app.header.session.context.committed =
        (since.filterMap Message.dataset?).getLast?.getD served.feed.selected ∧
      (served.app.header.refreshing = true ↔ sent.countP Message.isRefresh % 2 = 1)) ∧
      served.app.header.session.context.values = served.feed.datasets ∧
      ∀ step, ∃ messages,
        (served.take step).app.header.backend.arrived =
            served.app.header.backend.arrived ++ messages ∧
          messages.length ≤ 1 ∧
          ∀ message ∈ messages, (∃ command, step = .command command) ∧
            (message = .refresh ∨ ∃ name, message = .setDataset name ∧
              name ≠ served.app.header.session.context.committed ∧
              name ∈ served.app.header.session.context.values) := by
  have begun := Served.start_agrees branding feed backend first store source errorTimeout fresh
    delivers
  obtain ⟨sent, since, agrees⟩ := begun.follow steps
  rw [← reached] at agrees
  refine ⟨⟨sent, since, agrees.arrived, agrees.lately, agrees.committed, agrees.refreshing⟩,
    agrees.candidates, ?_⟩
  intro step
  cases step with
  | command command =>
    obtain ⟨messages, sends⟩ := reduce_sends served.app command agrees.connected
    obtain ⟨one, named⟩ := sends.exchange.one_message
    refine ⟨messages, sends.arrived, one, ?_⟩
    intro message among
    exact ⟨⟨command, rfl⟩, named message among⟩
  | feed feed =>
    obtain ⟨kept, -, -⟩ :=
      served.app.header.setDatasets_silent feed.active feed.datasets served.app.fresh
    refine ⟨[], ?_, Nat.zero_le _, nofun⟩
    rw [List.append_nil]
    exact congrArg Backend.arrived kept
  | view => exact ⟨[], (List.append_nil _).symm, Nat.zero_le _, nofun⟩

/-- A dataset is chosen, a refresh is sent, and then a feed does not know its active value:
nothing is committed, which the server is not told, and the indicator is still on. -/
theorem server_agrees_unknown_active :
    let feed : Feed := ⟨"alpha", ["alpha", "beta"]⟩
    let backend : Backend := { kind := .writer }
    let steps : List Step :=
      [.command .edit, .command .clearInput, .command (.inputKey ⟨.char 'b', {}⟩),
        .command .acceptCompletion, .command .commit, .command .refresh,
        .feed ⟨"beta", ["alpha"]⟩]
    let served := (Served.start {} feed backend .first {} (.fixed {}) 3000 .first).follow steps
    served.app.header.backend.arrived.map Message.kind = ["set_dataset", "refresh"] ∧
      served.app.header.session.context.committed = "" ∧
      served.app.header.refreshing = true ∧
      ∃ sent since, served.app.header.backend.arrived = backend.arrived ++ sent ∧
        served.app.header.backend.arrived = served.earlier ++ since ∧
        served.app.header.session.context.committed =
          (since.filterMap Message.dataset?).getLast?.getD served.feed.selected ∧
        (served.app.header.refreshing = true ↔ sent.countP Message.isRefresh % 2 = 1) := by
  intro feed backend steps served
  have agreement :=
    server_agrees {} feed backend .first {} (.fixed {}) 3000 .first steps served rfl (.inr rfl)
  exact ⟨by decide +kernel, by decide +kernel, by decide +kernel, agreement.1⟩

end DatasetPicker.App
