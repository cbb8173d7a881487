import DatasetPicker.Proofs.Backend.Sending
import DatasetPicker.Proofs.Header.Perform

/-!
# What a header tells the server

A header whose messages arrive sends at most one for each thing that happens to it: the name
of a dataset when another one is chosen, or a refresh when the logo is clicked. A feed sends
none.
-/

namespace DatasetPicker

namespace Backend

/-- The name of the dataset that a message tells of. -/
def Message.dataset? (message : Message) : Option String :=
  if message.kind = "set_dataset" then
    match message.payload.lookup "dataset_name" with
    | some (.string name) => some name
    | _ => none
  else none

/-- A message asks for a refresh. -/
def Message.isRefresh (message : Message) : Bool := message.kind == "refresh"

/-- A message that sets the dataset names it. -/
theorem Message.setDataset_dataset? (name : String) :
    (setDataset name).dataset? = some name := rfl

/-- A refresh names no dataset. -/
theorem Message.refresh_dataset? : refresh.dataset? = none := rfl

/-- A message that sets the dataset does not ask for a refresh. -/
theorem Message.setDataset_isRefresh (name : String) :
    (setDataset name).isRefresh = false := rfl

/-- A refresh asks for one. -/
theorem Message.refresh_isRefresh : refresh.isRefresh = true := rfl

end Backend

namespace Header

open Backend (Message)
open Selector (Operation ErrorId Session)

/-- The committed dataset. -/
def committed (header : Header) : String := header.session.context.committed

/-- The datasets that can be committed. -/
def candidates (header : Header) : List String := header.session.context.values

/-- A header tells the server of commits, and its messages arrive. -/
structure Connected (header : Header) : Prop where
  listener : header.session.context.listener = some .server
  delivers : header.backend.Delivers

/-- What a header can send when something happens to it, and what changes with it. -/
inductive Exchange (header after : Header) : List Message → Prop where
  | silent (committed : after.committed = header.committed)
      (refreshing : after.refreshing = header.refreshing) : Exchange header after []
  | chooses (name : String) (known : name ∈ header.candidates)
      (changed : name ≠ header.committed) (committed : after.committed = name)
      (refreshing : after.refreshing = header.refreshing) :
      Exchange header after [.setDataset name]
  | refreshes (committed : after.committed = header.committed)
      (flipped : after.refreshing = !header.refreshing) : Exchange header after [.refresh]

/-- The last dataset that is named is committed, and without one all is as before. -/
theorem Exchange.committed_last {header after : Header} {messages : List Message}
    (exchange : Exchange header after messages) :
    after.committed = (messages.filterMap Message.dataset?).getLast?.getD header.committed := by
  cases exchange with
  | silent committed refreshing => exact committed
  | chooses name known changed committed refreshing =>
    rw [List.filterMap_cons_some (Message.setDataset_dataset? name)]
    exact committed
  | refreshes committed flipped =>
    rw [List.filterMap_cons_none Message.refresh_dataset?]
    exact committed

/-- The indicator goes on with the parity of the refreshes. -/
theorem Exchange.parity {header after : Header} {messages : List Message}
    (exchange : Exchange header after messages) (number : Nat)
    (before : header.refreshing = true ↔ number % 2 = 1) :
    after.refreshing = true ↔ (number + messages.countP Message.isRefresh) % 2 = 1 := by
  cases exchange with
  | silent committed refreshing =>
    rw [refreshing, before]
    rfl
  | chooses name known changed committed refreshing =>
    rw [refreshing, before]
    simp [Message.setDataset_isRefresh]
  | refreshes committed flipped =>
    have one : [Message.refresh].countP Message.isRefresh = 1 := by
      rw [List.countP_singleton, if_pos Message.refresh_isRefresh]
    rw [flipped, one, Bool.not_eq_true', ← Bool.not_eq_true, before]
    omega

/-- At most one message is sent: a refresh, or the name of another candidate. -/
theorem Exchange.one_message {header after : Header} {messages : List Message}
    (exchange : Exchange header after messages) :
    messages.length ≤ 1 ∧ ∀ message ∈ messages, message = .refresh ∨
      ∃ name, message = .setDataset name ∧ name ≠ header.committed ∧
        name ∈ header.candidates := by
  cases exchange with
  | silent committed refreshing => exact ⟨Nat.zero_le _, nofun⟩
  | chooses name known changed committed refreshing =>
    refine ⟨Nat.le_refl _, ?_⟩
    intro message sent
    exact .inr ⟨name, List.mem_singleton.mp sent, changed, known⟩
  | refreshes committed flipped =>
    refine ⟨Nat.le_refl _, ?_⟩
    intro message sent
    exact .inl (List.mem_singleton.mp sent)

/-- A header that stays connected has sent some messages. -/
structure Sends (header after : Header) (messages : List Message) : Prop where
  exchange : Exchange header after messages
  arrived : after.backend.arrived = header.backend.arrived ++ messages
  candidates : after.candidates = header.candidates
  connected : after.Connected

variable (header : Header) (connected : header.Connected)
include connected

/-- A header that gave messages to its backend has sent them, if they go with what changed. -/
theorem sends_given (after : Header) (messages : List Message)
    (exchange : Exchange header after messages)
    (backend : after.backend = header.backend.sendAll messages)
    (candidates : after.candidates = header.candidates)
    (listener : after.session.context.listener = header.session.context.listener) :
    Sends header after messages := by
  refine ⟨exchange, ?_, candidates, listener.trans connected.listener, ?_⟩
  · rw [backend]
    exact header.backend.sendAll_arrived messages connected.delivers
  · rw [backend]
    exact connected.delivers.sendAll messages

/-- A header whose session and backend stay as they are sends nothing. -/
theorem sends_nothing (after : Header) (session : after.session = header.session)
    (backend : after.backend = header.backend)
    (refreshing : after.refreshing = header.refreshing) : Sends header after [] := by
  refine header.sends_given connected after [] (.silent ?_ refreshing) backend ?_ ?_
  · rw [committed, session]
    rfl
  · rw [candidates, session]
    rfl
  · rw [session]

/-- What an operation sends is what its session tells the server. -/
theorem perform_sends_told (operation : Operation) (fresh : ErrorId) (messages : List Message)
    (told : (header.session.perform operation fresh).told.filterMap message? = messages)
    (exchange : Exchange header (header.perform operation fresh).header messages)
    (candidates : (header.perform operation fresh).header.candidates = header.candidates)
    (listener : (header.perform operation fresh).header.session.context.listener =
      header.session.context.listener) :
    Sends header (header.perform operation fresh).header messages := by
  have backend : (header.perform operation fresh).header.backend =
      header.backend.sendAll messages := by
    rw [perform_backend, told]
  exact header.sends_given connected _ messages exchange backend candidates listener

/-- An operation that is not a feed sends the name of the dataset that it chooses, if it
chooses one. -/
theorem perform_sends (operation : Operation) (fresh : ErrorId)
    (feed : operation.isFeed = false) : ∃ messages,
      Sends header (header.perform operation fresh).header messages := by
  have course := header.session.perform_course operation fresh feed
  have session := header.perform_session operation fresh
  cases course with
  | passes quiet =>
    refine ⟨[], perform_sends_told header connected operation fresh [] ?_
      (.silent quiet.committed rfl) quiet.values quiet.listener⟩
    rw [quiet.told]
    rfl
  | chooses name known changed ended unused effects told =>
    rw [ended] at session
    have accepted : (header.perform operation fresh).header.committed = name := by
      rw [committed, session]
      rfl
    refine ⟨[.setDataset name], perform_sends_told header connected operation fresh _ ?_
      (.chooses name known changed accepted rfl) ?_ ?_⟩
    · rw [told, connected.listener]
      rfl
    · rw [candidates, session]
      rfl
    · rw [session]
      rfl
  | refuses value editing marked used effects told =>
    rw [marked] at session
    have kept : (header.perform operation fresh).header.committed = header.committed := by
      rw [committed, session]
      rfl
    refine ⟨[], perform_sends_told header connected operation fresh [] ?_
      (.silent kept rfl) ?_ ?_⟩
    · rw [told]
      rfl
    · rw [candidates, session]
      rfl
    · rw [session]

/-- A click on the logo sends a refresh and flips the indicator. -/
theorem activateLogo_sends : Sends header header.activateLogo.1 [.refresh] := by
  have backend : header.activateLogo.1.backend = header.backend.sendAll [.refresh] :=
    deliver_backend _ _
  exact header.sends_given connected _ [.refresh] (.refreshes rfl rfl) backend rfl rfl

/-- The expiry of a rejection sends nothing. -/
theorem expireError_sends (id : ErrorId) : Sends header (header.expireError id).1 [] := by
  rw [expireError_header]
  exact sends_nothing header connected _ rfl rfl rfl

omit connected

/-- A feed sends nothing. It selects its active value if that is among its datasets, and
connects the header again. -/
theorem setDatasets_silent (active : String) (datasets : List String) (fresh : ErrorId) :
    (header.setDatasets active datasets fresh).header.backend = header.backend ∧
      (header.setDatasets active datasets fresh).header.refreshing = header.refreshing ∧
      (header.setDatasets active datasets fresh).header.session =
        ⟨.reading, .feed active datasets (some .server)⟩ := by
  refine ⟨?_, rfl, rfl⟩
  have told : (header.session.perform (.send (.setValues active datasets (some .server)))
      fresh).told = [] := by
    rw [Session.perform, Session.events, Session.sendAll_one, Session.send_told]
    rfl
  change (header.perform _ fresh).header.backend = _
  rw [perform_backend, told]
  rfl

end Header

end DatasetPicker
