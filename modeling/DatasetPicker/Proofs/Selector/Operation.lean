import DatasetPicker.Proofs.Selector.Transition

/-!
# What an operation comes to

An operation is one event or two, and of two the first only moves the focus. So there are
three outcomes of an operation that is not a feed: it passes quietly, it chooses a known
value and tells the listener, or it refuses an unknown value and uses up one id.
-/

namespace DatasetPicker.Selector

/-- The next id is another one. -/
theorem ErrorId.ne_next (id : ErrorId) : id ≠ id.next := by
  intro same
  exact Nat.ne_of_lt (Nat.lt_succ_self _) (congrArg ErrorId.number same)

/-- The listener that a report tells of a dataset, and its name. -/
def Report.told? : Report → Option (Listener × String)
  | .entry _ => none
  | .told listener name => some (listener, name)

/-- What listeners are told, in order. -/
def Reaction.told (reaction : Reaction) : List (Listener × String) :=
  reaction.reports.filterMap Report.told?

/-- A reaction and the one after it, as one. -/
def Reaction.followedBy (first later : Reaction) : Reaction :=
  { session := later.session
    fresh := later.fresh
    effects := first.effects ++ later.effects
    reports := first.reports ++ later.reports }

/-- Listeners are told in order. -/
theorem Reaction.followedBy_told (first later : Reaction) :
    (first.followedBy later).told = first.told ++ later.told :=
  List.filterMap_append

/-- The reaction of an operation without effect, which keeps all that feeds and commits
decide. Nobody is told anything and no id is used up. -/
structure Reaction.Quiet (before : Context) (fresh : ErrorId) (reaction : Reaction) :
    Prop where
  effects : reaction.effects = []
  told : reaction.told = []
  fresh : reaction.fresh = fresh
  values : reaction.session.context.values = before.values
  committed : reaction.session.context.committed = before.committed
  listener : reaction.session.context.listener = before.listener
  error : reaction.session.mode.isEditing = true →
    reaction.session.context.error = before.error

/-- Quiet reactions are quiet together. -/
theorem Reaction.Quiet.followedBy {before between : Context} {fresh : ErrorId}
    {first later : Reaction} (begun : first.Quiet between fresh)
    (ended : later.Quiet before fresh) : (first.followedBy later).Quiet before fresh := by
  refine ⟨?_, ?_, ended.fresh, ended.values, ended.committed, ended.listener, ended.error⟩
  · change first.effects ++ later.effects = []
    rw [begun.effects, ended.effects, List.append_nil]
  · rw [followedBy_told, begun.told, ended.told, List.append_nil]

/-- A feed is sent. -/
def Operation.isFeed : Operation → Bool
  | .send (.setValues ..) => true
  | _ => false

/-- Whether the pointer is over the results is told. -/
def Operation.isPointing : Operation → Bool
  | .send .enterResults | .send .leaveResults => true
  | _ => false

namespace Session

/-- Listeners are told about the effects of an event and about nothing else. -/
theorem send_told (session : Session) (event : Event) (fresh : ErrorId) :
    (session.send event fresh).told =
      (session.send event fresh).effects.flatMap fun effect =>
        (announce (session.send event fresh).session.context.listener effect).filterMap
          Report.told? := by
  have warned : (event.warnings.map Report.entry).filterMap Report.told? = [] := by
    simp [Report.told?, List.filterMap_map, Function.comp_def]
  have moves (after : Mode) :
      (moved event session.mode after).filterMap Report.told? = [] := by
    unfold moved
    split <;> rfl
  simp only [Reaction.told, send, List.filterMap_append, warned, moves, List.nil_append,
    List.filterMap_flatMap]

/-- The listener, if there is one, is told of a commit. -/
theorem announce_committed_told (listener : Option Listener) (value : String) :
    (announce listener (.committed value)).filterMap Report.told? =
      (listener.map (·, value)).toList := by
  cases listener <;> rfl

/-- The rejections among the effects use up ids. -/
theorem send_fresh (session : Session) (event : Event) (fresh : ErrorId) :
    (session.send event fresh).fresh = nextFresh fresh (session.send event fresh).effects :=
  rfl

/-- A plain event passes quietly. -/
theorem send_quiet (session : Session) (event : Event) (fresh : ErrorId)
    (plain : event.isPlain = true) :
    (session.send event fresh).Quiet session.context fresh := by
  have quiet := transition_quiet session.mode session.context event fresh plain
  have none : (session.send event fresh).effects = [] := quiet.effects
  refine ⟨none, ?_, ?_, quiet.values, quiet.committed, quiet.listener, quiet.error⟩
  · rw [send_told, none, List.flatMap_nil]
  · rw [send_fresh, none]
    rfl

/-- Without events nothing happens. -/
theorem sendAll_nil_quiet (session : Session) (fresh : ErrorId) :
    (session.sendAll fresh []).Quiet session.context fresh :=
  ⟨rfl, rfl, rfl, rfl, rfl, rfl, fun _ => rfl⟩

/-- One event alone is a sequence of events. -/
theorem sendAll_one (session : Session) (fresh : ErrorId) (event : Event) :
    session.sendAll fresh [event] = session.send event fresh := by
  simp [sendAll]

/-- A sequence of events is its first event and then, from where that led, the rest. -/
theorem sendAll_cons (session : Session) (fresh : ErrorId) (event : Event) (rest : List Event) :
    let first := session.send event fresh
    session.sendAll fresh (event :: rest) =
      first.followedBy (first.session.sendAll first.fresh rest) :=
  rfl

/-- A sequence of events is its first part and then, from where that led, the rest. -/
theorem sendAll_append (session : Session) (fresh : ErrorId) (events rest : List Event) :
    let first := session.sendAll fresh events
    session.sendAll fresh (events ++ rest) =
      first.followedBy (first.session.sendAll first.fresh rest) := by
  induction events generalizing session fresh with
  | nil => rfl
  | cons event events ih =>
    simp only [List.cons_append, sendAll_cons, ih, Reaction.followedBy, List.append_assoc]

/-- Of two events the first of which keeps the context, the second decides. -/
theorem sendAll_two_quiet (session : Session) (fresh : ErrorId) (first second : Event)
    (kept : (session.send first fresh).session.context = session.context)
    (passes : (session.send first fresh).Quiet session.context fresh)
    (plain : second.isPlain = true) :
    (session.sendAll fresh [first, second]).Quiet session.context fresh := by
  have later := send_quiet (session.send first fresh).session second fresh plain
  rw [kept] at later
  rw [sendAll_cons, sendAll_one, passes.fresh]
  exact passes.followedBy later

/-- Moving the focus keeps the context. -/
theorem send_focus_context (session : Session) (event : Event) (fresh : ErrorId)
    (focus : event = .focusInput ∨ event = .unfocusInput) :
    (session.send event fresh).session.context = session.context := by
  obtain ⟨mode, context⟩ := session
  obtain rfl | rfl := focus
  · cases mode <;> rfl
  · cases mode <;> rfl

/-! ## Commits -/

/-- While nothing is edited a commit passes quietly. -/
theorem send_commit_reading (context : Context) (value : String) (fresh : ErrorId) :
    (send ⟨.reading, context⟩ (.commit value) fresh).Quiet context fresh :=
  ⟨rfl, rfl, rfl, rfl, rfl, rfl, fun _ => rfl⟩

/-- A refused commit changes the error and nothing else, and tells nobody. -/
theorem send_commit_unknown (session : Session) (value : String) (fresh : ErrorId)
    (editing : session.mode.isEditing = true) (unknown : value ∉ session.context.values) :
    session.send (.commit value) fresh =
      { session :=
          { session with context := { session.context with error := some ⟨fresh, value⟩ } }
        fresh := fresh.next
        effects := [.rejected ⟨fresh, value⟩]
        reports := announce session.context.listener (.rejected ⟨fresh, value⟩) } := by
  obtain ⟨mode, context⟩ := session
  cases mode with
  | reading => contradiction
  | editing input results =>
    simp only [send, transition, commit_unknown _ _ _ _ unknown]
    simp [moved, nextFresh, Event.warnings, Event.unknownActive?]

/-- A commit of a known value ends the edit, and has an effect if the value is new. -/
theorem send_commit_known (session : Session) (value : String) (fresh : ErrorId)
    (editing : session.mode.isEditing = true) (known : value ∈ session.context.values) :
    (session.send (.commit value) fresh).session = ⟨.reading, session.context.accept value⟩ ∧
      (session.send (.commit value) fresh).effects =
        if value = session.context.committed then [] else [.committed value] := by
  obtain ⟨mode, context⟩ := session
  cases mode with
  | reading => contradiction
  | editing input results =>
    simp only [send, transition, commit_known _ _ _ _ known]
    exact ⟨trivial, trivial⟩

/-- A commit of the value that is committed already ends the edit quietly. -/
theorem send_commit_same (session : Session) (fresh : ErrorId)
    (editing : session.mode.isEditing = true)
    (known : session.context.committed ∈ session.context.values) :
    (session.send (.commit session.context.committed) fresh).Quiet session.context fresh := by
  obtain ⟨after, effects⟩ := send_commit_known session _ fresh editing known
  rw [if_pos rfl] at effects
  refine ⟨effects, ?_, ?_, ?_, ?_, ?_, ?_⟩
  · rw [send_told, effects, List.flatMap_nil]
  · rw [send_fresh, effects]
    rfl
  · rw [after]
    rfl
  · rw [after]
    rfl
  · rw [after]
    rfl
  · rw [after]
    exact fun editing => by contradiction

/-- A commit of another known value chooses it: the edit ends and the listener is told. -/
theorem send_commit_changed (session : Session) (value : String) (fresh : ErrorId)
    (editing : session.mode.isEditing = true) (known : value ∈ session.context.values)
    (changed : value ≠ session.context.committed) :
    (session.send (.commit value) fresh).session = ⟨.reading, session.context.accept value⟩ ∧
      (session.send (.commit value) fresh).fresh = fresh ∧
      (session.send (.commit value) fresh).effects = [.committed value] ∧
      (session.send (.commit value) fresh).told =
        (session.context.listener.map (·, value)).toList := by
  obtain ⟨after, effects⟩ := send_commit_known session value fresh editing known
  rw [if_neg changed] at effects
  refine ⟨after, ?_, effects, ?_⟩
  · rw [send_fresh, effects]
    rfl
  · rw [send_told, effects, after, List.flatMap_singleton]
    exact announce_committed_told session.context.listener value

/-! ## Operations -/

/-- The outcomes of an operation that is not a feed. -/
inductive Course (session : Session) (fresh : ErrorId) (reaction : Reaction) : Prop where
  | passes (quiet : reaction.Quiet session.context fresh)
  | chooses (value : String) (known : value ∈ session.context.values)
      (changed : value ≠ session.context.committed)
      (ended : reaction.session = ⟨.reading, session.context.accept value⟩)
      (unused : reaction.fresh = fresh) (effects : reaction.effects = [.committed value])
      (told : reaction.told = (session.context.listener.map (·, value)).toList)
  | refuses (value : String) (editing : session.mode.isEditing = true)
      (marked : reaction.session =
        { session with context := { session.context with error := some ⟨fresh, value⟩ } })
      (used : reaction.fresh = fresh.next)
      (effects : reaction.effects = [.rejected ⟨fresh, value⟩]) (told : reaction.told = [])

/-- A commit takes one of the three courses. -/
theorem commit_course (session : Session) (value : String) (fresh : ErrorId) :
    Course session fresh (session.send (.commit value) fresh) := by
  by_cases editing : session.mode.isEditing = true
  · by_cases known : value ∈ session.context.values
    · by_cases same : value = session.context.committed
      · subst same
        exact .passes (send_commit_same session fresh editing known)
      · obtain ⟨ended, unused, effects, told⟩ :=
          send_commit_changed session value fresh editing known same
        exact .chooses value known same ended unused effects told
    · have refused := send_commit_unknown session value fresh editing known
      refine .refuses value editing ?_ ?_ ?_ ?_
      · rw [refused]
      · rw [refused]
      · rw [refused]
      · rw [refused]
        rfl
  · obtain ⟨mode, context⟩ := session
    cases mode with
    | reading => exact .passes (send_commit_reading context value fresh)
    | editing input results => exact absurd rfl editing

/-- An event that is not a feed takes one of the three courses. -/
theorem send_course (session : Session) (event : Event) (fresh : ErrorId)
    (feed : (Operation.send event).isFeed = false) :
    Course session fresh (session.send event fresh) := by
  cases event with
  | setValues value values listener => contradiction
  | commit value => exact commit_course session value fresh
  | _ => exact .passes (send_quiet session _ fresh rfl)

/-- An operation that is not a feed takes one of the three courses. -/
theorem perform_course (session : Session) (operation : Operation) (fresh : ErrorId)
    (feed : operation.isFeed = false) :
    Course session fresh (session.perform operation fresh) := by
  unfold perform
  cases operation with
  | send event =>
    rw [events, sendAll_one]
    exact send_course session event fresh feed
  | unfocus =>
    rw [events]
    split
    · exact .passes (sendAll_two_quiet session fresh .unfocusInput .blur
        (send_focus_context session _ fresh (.inr rfl)) (send_quiet session _ fresh rfl) rfl)
    · rw [sendAll_one]
      exact .passes (send_quiet session _ fresh rfl)
  | select index =>
    rw [events]
    cases session.context.results[index]? with
    | none => exact .passes (sendAll_nil_quiet session fresh)
    | some name =>
      change Course session fresh (session.sendAll fresh [.commit name])
      rw [sendAll_one]
      exact commit_course session name fresh
  | complete =>
    rw [events]
    cases session.context.completion with
    | none => exact .passes (sendAll_nil_quiet session fresh)
    | some completion =>
      change Course session fresh (session.sendAll fresh [.change completion.value])
      rw [sendAll_one]
      exact .passes (send_quiet session _ fresh rfl)
  | submit =>
    rw [events, sendAll_one]
    exact commit_course session session.context.value fresh
  | typeText text =>
    rw [events]
    split
    · rw [sendAll_one]
      exact .passes (send_quiet session _ fresh rfl)
    · exact .passes (sendAll_two_quiet session fresh .focusInput (.change text)
        (send_focus_context session _ fresh (.inl rfl)) (send_quiet session _ fresh rfl) rfl)

end Session

end DatasetPicker.Selector
