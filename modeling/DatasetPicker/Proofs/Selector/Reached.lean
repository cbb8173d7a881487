import DatasetPicker.Proofs.Selector.Operation

/-!
# The sessions that can be reached

A session is started on a feed and then carries out operations, in any order and with any
ids for its rejections. The names of the last feed are its candidates: they are the known
values, and what is committed is one of them or nothing at all.
-/

namespace DatasetPicker.Selector

/-- The candidates after an event: those of a feed take the place of the ones before. -/
def Event.candidates (before : List String) : Event → List String
  | .setValues _ values _ => values
  | _ => before

/-- The candidates after an operation. Only a feed that is sent replaces them. -/
def Operation.candidates (before : List String) : Operation → List String
  | .send event => event.candidates before
  | _ => before

namespace Session

/-- A session that operations reach from its start, with the candidates of the last
feed. -/
inductive Reached : List String → Session → Prop where
  | start (value : String) (values : List String) (listener : Option Listener)
      (fresh : ErrorId) : Reached values (start value values listener fresh).session
  | perform {candidates : List String} {session : Session}
      (reached : Reached candidates session) (operation : Operation) (fresh : ErrorId) :
      Reached (operation.candidates candidates) (session.perform operation fresh).session

/-- What each event keeps, a sequence of events keeps. -/
theorem sendAll_keeps {kept : Session → Prop}
    (step : ∀ session event fresh, kept session → kept (send session event fresh).session)
    (session : Session) (fresh : ErrorId) (events : List Event) (holds : kept session) :
    kept (session.sendAll fresh events).session := by
  induction events generalizing session fresh with
  | nil => exact holds
  | cons event rest ih => exact ih _ _ (step session event fresh holds)

/-- What every feed establishes and each event keeps holds of every session reached. -/
theorem Reached.keeps {kept : Session → Prop}
    (fed : ∀ value values listener, kept ⟨.reading, .feed value values listener⟩)
    (step : ∀ session event fresh, kept session → kept (send session event fresh).session)
    {candidates : List String} {session : Session} (reached : Reached candidates session) :
    kept session := by
  induction reached with
  | start value values listener fresh => exact fed value values listener
  | perform _ operation fresh ih => exact sendAll_keeps step _ _ _ ih

/-! ## Candidates -/

/-- The known values after an event. -/
theorem send_values (session : Session) (event : Event) (fresh : ErrorId) :
    (session.send event fresh).session.context.values =
      event.candidates session.context.values := by
  cases event with
  | setValues value values listener => rfl
  | commit value => exact transition_commit_values _ _ _ _
  | _ => exact (transition_quiet _ _ _ fresh rfl).values

/-- The known values after a sequence of events. -/
theorem sendAll_values (session : Session) (fresh : ErrorId) (events : List Event) :
    (session.sendAll fresh events).session.context.values =
      events.foldl Event.candidates session.context.values := by
  induction events generalizing session fresh with
  | nil => rfl
  | cons event rest ih => rw [sendAll, List.foldl_cons, ← send_values session event fresh, ← ih]

/-- The known values after an operation. -/
theorem perform_values (session : Session) (operation : Operation) (fresh : ErrorId) :
    (session.perform operation fresh).session.context.values =
      operation.candidates session.context.values := by
  rw [perform, sendAll_values]
  cases operation with
  | send event => rfl
  | unfocus => simp only [events]; split <;> rfl
  | select index => simp only [events]; cases session.context.results[index]? <;> rfl
  | complete => simp only [events]; cases session.context.completion <;> rfl
  | submit => rfl
  | typeText text => simp only [events]; split <;> rfl

/-- The known values of a session are its candidates. -/
theorem Reached.values {candidates : List String} {session : Session}
    (reached : Reached candidates session) : session.context.values = candidates := by
  induction reached with
  | start value values listener fresh => rfl
  | perform _ operation fresh ih => rw [perform_values, ih]

/-! ## The committed dataset -/

/-- What is committed is nothing or a known value. -/
def Selects (session : Session) : Prop :=
  session.context.committed = "" ∨ session.context.committed ∈ session.context.values

/-- A feed selects its active value, or nothing when it does not know that value. -/
theorem feed_selects (value : String) (values : List String) (listener : Option Listener) :
    Selects ⟨.reading, .feed value values listener⟩ := by
  simp only [Selects, Context.feed]
  split
  · rename_i known
    simpa [Bool.or_eq_true, String.isEmpty_iff] using known
  · exact .inl rfl

/-- A commit leaves nothing or a known value committed. -/
theorem commit_selects (session : Session) (value : String) (fresh : ErrorId)
    (selects : Selects session) :
    Selects (session.send (.commit value) fresh).session := by
  obtain ⟨mode, context⟩ := session
  cases mode with
  | reading => exact selects
  | editing input results =>
    simp only [send, transition]
    by_cases known : value ∈ context.values
    · rw [commit_known _ _ _ _ known]
      exact .inr known
    · rw [commit_unknown _ _ _ _ known]
      exact selects

/-- A plain event leaves nothing or a known value committed. -/
theorem plain_selects (session : Session) (event : Event) (fresh : ErrorId)
    (selects : Selects session) (plain : event.isPlain = true) :
    Selects (session.send event fresh).session := by
  have quiet := transition_quiet session.mode session.context event fresh plain
  unfold Selects send
  rw [quiet.committed, quiet.values]
  exact selects

/-- Every event leaves nothing or a known value committed. -/
theorem send_selects (session : Session) (event : Event) (fresh : ErrorId)
    (selects : Selects session) : Selects (session.send event fresh).session := by
  cases event with
  | setValues value values listener => exact feed_selects value values listener
  | commit value => exact commit_selects session value fresh selects
  | _ => exact plain_selects session _ fresh selects rfl

/-- A session reached has nothing or a known value committed. -/
theorem Reached.selects {candidates : List String} {session : Session}
    (reached : Reached candidates session) : Selects session :=
  reached.keeps feed_selects send_selects

/-- What is committed is nothing or one of the candidates. While a name is edited, a commit
of any other value marks the context with its error and changes nothing else: it tells
nobody, and its one effect is the rejection with this error. -/
theorem committed_candidate {candidates : List String} {session : Session}
    (reached : Reached candidates session) :
    (session.context.committed = "" ∨ session.context.committed ∈ candidates) ∧
      ∀ value fresh, session.mode.isEditing = true → value ∉ candidates →
        let reaction := session.send (.commit value) fresh
        let error : CommitError := ⟨fresh, value⟩
        reaction.session =
            { session with context := { session.context with error := some error } } ∧
          reaction.effects = [.rejected error] ∧ reaction.told = [] := by
  have known := reached.values
  constructor
  · rw [← known]
    exact reached.selects
  · intro value fresh editing unknown
    rw [← known] at unknown
    rw [send_commit_unknown session value fresh editing unknown]
    exact ⟨rfl, rfl, rfl⟩

/-- A name is refused although it was a candidate before the feed was replaced. -/
theorem committed_candidate_after_feed :
    let fed := (start "beta" ["alpha", "beta"] (some .server) .first).session.perform
      (.send (.setValues "beta" ["alpha", "gamma"] (some .server))) .first
    let edited := (fed.session.perform (.send .edit) .first).session
    edited.mode.isEditing = true ∧ "beta" ∉ ["alpha", "gamma"] ∧
      (edited.context.committed = "" ∨ edited.context.committed ∈ ["alpha", "gamma"]) ∧
      (edited.send (.commit "beta") .first).effects = [.rejected ⟨.first, "beta"⟩] := by
  have reached : Reached ["alpha", "gamma"] _ :=
    .perform (.perform (.start "beta" ["alpha", "beta"] (some .server) .first)
      (.send (.setValues "beta" ["alpha", "gamma"] (some .server))) .first) (.send .edit) .first
  have outside : "beta" ∉ ["alpha", "gamma"] := by decide
  exact ⟨rfl, outside, (committed_candidate reached).1,
    ((committed_candidate reached).2 "beta" .first rfl outside).2.1⟩

end Session

end DatasetPicker.Selector
