import DatasetPicker.Config.Store

/-!
# The revision of a store

A call on a store either leaves it as it is or takes over another snapshot under the next
revision. So the revision never falls, it counts the changes, and it tells which snapshot is
there: as long as the revision stays the same, so does the snapshot.
-/

namespace DatasetPicker.Config

namespace Store

/-- The store that a run begins with: one without a snapshot, or one with it. -/
def begun : Option Snapshot → Store
  | none => {}
  | some snapshot => ofSnapshot snapshot

/-- A call on a store, with the source that it asks. -/
inductive Call where
  | load (source : Source)
  | loadOrKeep (source : Source)

/-- What the source of a call answers. -/
def Call.fetched : Call → Except Failure Snapshot
  | .load source | .loadOrKeep source => source.fetch.1.outcome

/-- What a call gives back: whether the store changes, or why it fails. -/
def Call.returns (store : Store) : Call → Except Failure Bool
  | .load source => (store.load source.fetch.1).outcome
  | .loadOrKeep source => .ok (store.loadOrKeep source.fetch.1).2.1

/-- The store after a call. -/
def take (store : Store) : Call → Store
  | .load source => (store.load source.fetch.1).store
  | .loadOrKeep source => (store.loadOrKeep source.fetch.1).1

/-- The store after calls in order. -/
def follow (store : Store) (calls : List Call) : Store := calls.foldl take store

/-- The snapshots that calls fetch, in order. -/
def fetches (calls : List Call) : List Snapshot :=
  calls.filterMap fun call => call.fetched.toOption

/-! ## One call -/

/-- The call changes nothing, for nothing was fetched that is not there already. -/
structure Keeps (store : Store) (call : Call) : Prop where
  same : store.take call = store
  returns : call.returns store ≠ .ok true
  known : ∀ snapshot, call.fetched = .ok snapshot →
    snapshot = store.snapshot ∧ 0 < store.revision

/-- The call takes over the fetched snapshot, which is another one than a snapshot before. -/
structure Changes (store : Store) (call : Call) (snapshot : Snapshot) : Prop where
  changed : store.take call = { snapshot, revision := store.revision + 1 }
  returns : call.returns store = .ok true
  fetched : call.fetched = .ok snapshot
  new : 0 < store.revision → snapshot ≠ store.snapshot

variable (store : Store)

/-- A call keeps the store or changes it. -/
theorem keeps_or_changes (call : Call) :
    store.Keeps call ∨ ∃ snapshot, store.Changes call snapshot := by
  -- Both kinds of call end in the same update, or in none.
  cases call with
  | load source | loadOrKeep source =>
    cases outcome : source.fetch.1.outcome with
    | error failure =>
      left
      constructor <;>
        simp [take, Call.returns, Call.fetched, loadOrKeep, load, outcome]
    | ok snapshot =>
      by_cases known : snapshot = store.snapshot ∧ 0 < store.revision
      · left
        constructor <;>
          simp [take, Call.returns, Call.fetched, loadOrKeep, load, update, outcome, known]
      · right
        refine ⟨snapshot, ?_, ?_, outcome, fun some same => known ⟨same, some⟩⟩ <;>
          simp [take, Call.returns, loadOrKeep, load, update, outcome, known]

/-- What a call gives back tells whether it fetched a snapshot that was not there. -/
theorem returns_true_iff (call : Call) :
    call.returns store = .ok true ↔
      ∃ snapshot, call.fetched = .ok snapshot ∧
        (0 < store.revision → snapshot ≠ store.snapshot) := by
  obtain keeps | ⟨snapshot, changes⟩ := store.keeps_or_changes call
  · refine iff_of_false keeps.returns ?_
    rintro ⟨snapshot, fetched, new⟩
    obtain ⟨same, some⟩ := keeps.known snapshot fetched
    exact new some same
  · exact iff_of_true changes.returns ⟨snapshot, changes.fetched, changes.new⟩

/-! ## Many calls -/

/-- The revision never falls. -/
theorem revision_le_follow (calls : List Call) :
    store.revision ≤ (store.follow calls).revision := by
  induction calls generalizing store with
  | nil => exact Nat.le_refl _
  | cons call rest ih =>
    have step : store.revision ≤ (store.take call).revision := by
      obtain keeps | ⟨snapshot, changes⟩ := store.keeps_or_changes call
      · exact Nat.le_of_eq (congrArg revision keeps.same.symm)
      · rw [changes.changed]
        exact Nat.le_succ _
    exact Nat.le_trans step (ih (store.take call))

/-- Calls that leave the revision leave the store. -/
theorem follow_eq_self {calls : List Call}
    (unmoved : (store.follow calls).revision = store.revision) : store.follow calls = store := by
  induction calls with
  | nil => rfl
  | cons call rest ih =>
    change ((store.take call).follow rest).revision = _ at unmoved
    change (store.take call).follow rest = _
    obtain keeps | ⟨snapshot, changes⟩ := store.keeps_or_changes call
    · rw [keeps.same] at unmoved ⊢
      exact ih unmoved
    · -- A change would have moved the revision on, and it does not come back.
      have later := (store.take call).revision_le_follow rest
      rw [changes.changed] at later unmoved
      simp only at later
      omega

/-- The snapshot of a store that had changes. -/
def current? : Option Snapshot := if 0 < store.revision then some store.snapshot else none

/-- A run begins with the snapshot that it was given. -/
theorem begun_current? (initial : Option Snapshot) : (begun initial).current? = initial := by
  cases initial <;> rfl

/-- After a call, what it fetched is there, or what was there before. -/
theorem take_current? (call : Call) :
    (store.take call).current? = call.fetched.toOption.or store.current? := by
  obtain keeps | ⟨snapshot, changes⟩ := store.keeps_or_changes call
  · rw [keeps.same]
    cases fetched : call.fetched with
    | error failure => rfl
    | ok snapshot =>
      obtain ⟨rfl, some⟩ := keeps.known snapshot fetched
      simp [current?, some, Except.toOption]
  · rw [changes.changed, changes.fetched]
    simp [current?, Except.toOption]

/-- After calls, what was fetched last is there, or what was there before. -/
theorem follow_current? (calls : List Call) :
    (store.follow calls).current? = (fetches calls).getLast?.or store.current? := by
  induction calls generalizing store with
  | nil => rfl
  | cons call rest ih =>
    have later := ih (store.take call)
    rw [take_current?, ← Option.or_assoc] at later
    refine later.trans (congrArg (Option.or · _) ?_)
    cases fetched : call.fetched.toOption with
    | none => simp [fetches, fetched]
    | some snapshot => simp [fetches, fetched, List.getLast?_cons]

/-- Of two moments of a run, one is reached from the other. -/
theorem follow_eq_of_revision_eq {calls earlier later : List Call} (first : earlier <+: calls)
    (second : later <+: calls)
    (same : (store.follow earlier).revision = (store.follow later).revision) :
    store.follow earlier = store.follow later := by
  obtain ⟨rest, rfl⟩ | ⟨rest, rfl⟩ := List.prefix_or_prefix_of_prefix first second
  all_goals
    simp only [follow, List.foldl_append] at same ⊢
  · exact (follow_eq_self _ same.symm).symm
  · exact follow_eq_self _ same

/-- A store is begun without a snapshot or with one, and then any calls load from sources that
answer anything or fail. Then a further call either leaves the store as it is or, exactly when it
returns that there was a change, takes over what it fetched under the next revision. A store with
a revision holds what was fetched last, else what it began with, and it changes only by what is
not there already; without a revision, every fetch that succeeds is a change. Wherever two moments
of the run have the same revision, they have the same snapshot. -/
theorem revision_identifies (initial : Option Snapshot) (calls : List Call) :
    let store := (begun initial).follow calls
    (∀ call : Call,
      (call.returns store ≠ .ok true → store.take call = store) ∧
      (call.returns store = .ok true →
        (store.take call).revision = store.revision + 1 ∧
          call.fetched = .ok (store.take call).snapshot) ∧
      (0 < store.revision →
        (call.returns store = .ok true ↔
          ∃ snapshot, call.fetched = .ok snapshot ∧ snapshot ≠ store.snapshot)) ∧
      (store.revision = 0 →
        (call.returns store = .ok true ↔ ∃ snapshot, call.fetched = .ok snapshot))) ∧
    (0 < store.revision → (fetches calls).getLast?.or initial = some store.snapshot) ∧
    ∀ earlier later, earlier <+: calls → later <+: calls →
      ((begun initial).follow earlier).revision = ((begun initial).follow later).revision →
      ((begun initial).follow earlier).snapshot = ((begun initial).follow later).snapshot := by
  intro store
  refine ⟨fun call => ⟨?_, ?_, ?_, ?_⟩, ?_, ?_⟩
  · intro other
    obtain keeps | ⟨snapshot, changes⟩ := store.keeps_or_changes call
    · exact keeps.same
    · exact absurd changes.returns other
  · intro changed
    obtain keeps | ⟨snapshot, changes⟩ := store.keeps_or_changes call
    · exact absurd changed keeps.returns
    · rw [changes.changed]
      exact ⟨rfl, changes.fetched⟩
  · intro some
    simp only [returns_true_iff, some, true_imp_iff]
  · intro none
    simp [returns_true_iff, none]
  · intro some
    have last := (begun initial).follow_current? calls
    rw [begun_current?] at last
    rw [← last]
    exact if_pos some
  · intro earlier later first second same
    rw [follow_eq_of_revision_eq _ first second same]

end Store

end DatasetPicker.Config
