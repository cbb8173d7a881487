import DatasetPicker.Proofs.Selector.Operation

/-!
# Other ids for the same rejections

The id of a rejection is handed to a selector and only passed on. So a session whose
rejections have other ids does what the session does, with other ids for its rejections.
-/

namespace DatasetPicker.Selector

variable (ids : ErrorId → ErrorId)

/-- The rejection under another id. -/
def CommitError.renumber (error : CommitError) : CommitError := { error with id := ids error.id }

/-- The effect with another id for a rejection. -/
def Effect.renumber : Effect → Effect
  | .committed value => .committed value
  | .rejected error => .rejected (error.renumber ids)

/-- The context with another id for its rejection. -/
def Context.renumber (context : Context) : Context :=
  { context with error := context.error.map (CommitError.renumber ids) }

/-- The session with another id for its rejection. -/
def Session.renumber (session : Session) : Session :=
  { session with context := session.context.renumber ids }

/-- The transition with other ids for its rejections. -/
def Transition.renumber (result : Transition) : Transition :=
  { result with
    context := result.context.renumber ids
    effects := result.effects.map (Effect.renumber ids) }

/-! ## Transitions -/

variable (mode : Mode) (context : Context) (fresh : ErrorId)

/-- Moving up does not look at the rejection. -/
theorem moveUp_renumber : (context.renumber ids).moveUp = context.moveUp.renumber ids := by
  simp only [Context.moveUp, Context.renumber]
  split
  · split <;> rfl
  · rfl

/-- A refused commit takes the id that is handed in. -/
theorem commit_renumber (value : String) :
    commit mode (context.renumber ids) value (ids fresh) =
      (commit mode context value fresh).renumber ids := by
  by_cases known : value ∈ context.values
  · have same : value ∈ (context.renumber ids).values := known
    rw [commit_known _ _ _ _ known, commit_known _ _ _ _ same]
    by_cases chosen : value = context.committed
    · have kept : value = (context.renumber ids).committed := chosen
      rw [if_pos chosen, if_pos kept]
      rfl
    · have other : value ≠ (context.renumber ids).committed := chosen
      rw [if_neg chosen, if_neg other]
      rfl
  · have same : value ∉ (context.renumber ids).values := known
    rw [commit_unknown _ _ _ _ known, commit_unknown _ _ _ _ same]
    rfl

/-- An event does the same under other ids. -/
theorem transition_renumber (event : Event) :
    transition mode (context.renumber ids) event (ids fresh) =
      (transition mode context event fresh).renumber ids := by
  cases mode with
  | reading => cases event <;> rfl
  | editing input results =>
    cases event with
    | commit value => exact commit_renumber ids _ context fresh value
    | previousResult =>
      simp only [transition, moveUp_renumber]
      rfl
    | _ => rfl

/-! ## Reactions -/

/-- The number of ids that are used up is the number of rejections. -/
theorem nextFresh_number (effects : List Effect) :
    (nextFresh fresh effects).number =
      fresh.number + effects.countP fun effect => effect matches .rejected _ := by
  induction effects generalizing fresh with
  | nil => rfl
  | cons effect rest ih =>
    cases effect with
    | committed value =>
      rw [List.countP_cons_of_neg (by simp)]
      exact ih fresh
    | rejected error =>
      rw [List.countP_cons_of_pos rfl]
      exact (ih fresh.next).trans (by simp only [ErrorId.next]; omega)

/-- Under other ids an id is used up just as well. -/
theorem nextFresh_renumber_eq_iff (effects : List Effect) (other : ErrorId) :
    nextFresh other (effects.map (Effect.renumber ids)) = other ↔
      nextFresh fresh effects = fresh := by
  have unused (id : ErrorId) (effects : List Effect) : nextFresh id effects = id ↔
      (effects.countP fun effect => effect matches .rejected _) = 0 := by
    have number := nextFresh_number id effects
    constructor
    · intro same
      rw [same] at number
      omega
    · intro none
      rw [none] at number
      exact congrArg ErrorId.mk number
  have same : (effects.map (Effect.renumber ids)).countP (fun effect => effect matches .rejected _) =
      effects.countP fun effect => effect matches .rejected _ := by
    rw [List.countP_map]
    refine List.countP_congr ?_
    intro effect _
    cases effect <;> rfl
  rw [unused, unused, same]

/-- The other reaction is the reaction under other ids: it uses up an id if the reaction does. -/
structure Reaction.Renumbers (reaction other : Reaction) : Prop where
  session : other.session = reaction.session.renumber ids
  effects : other.effects = reaction.effects.map (Effect.renumber ids)
  used : other.fresh = ids fresh ↔ reaction.fresh = fresh

namespace Session

variable (session : Session)

/-- A session reacts to an event in the same way under other ids. -/
theorem send_renumber (event : Event) :
    (session.send event fresh).Renumbers ids fresh
      ((session.renumber ids).send event (ids fresh)) := by
  have same := transition_renumber ids session.mode session.context fresh event
  have effects : ((session.renumber ids).send event (ids fresh)).effects =
      (session.send event fresh).effects.map (Effect.renumber ids) :=
    congrArg Transition.effects same
  have after := congrArg (fun result => Session.mk result.mode result.context) same
  refine ⟨after, effects, ?_⟩
  rw [send_fresh, effects]
  exact nextFresh_renumber_eq_iff ids fresh _ _

/-- A session reacts to events in the same way under other ids, if only the last of them can be
refused. -/
theorem sendAll_renumber (events : List Event)
    (plain : ∀ event ∈ events.dropLast, event.isPlain = true) :
    (session.sendAll fresh events).Renumbers ids fresh
      ((session.renumber ids).sendAll (ids fresh) events) := by
  induction events generalizing session with
  | nil => exact ⟨rfl, rfl, iff_of_true rfl rfl⟩
  | cons event rest ih =>
    cases rest with
    | nil =>
      rw [sendAll_one, sendAll_one]
      exact session.send_renumber ids fresh event
    | cons next rest =>
      obtain ⟨first, others⟩ := List.forall_mem_cons.mp plain
      have begun := session.send_renumber ids fresh event
      have later := ih (session.send event fresh).session others
      rw [sendAll_cons session, sendAll_cons (session.renumber ids),
        (session.send_quiet event fresh first).fresh,
        ((session.renumber ids).send_quiet event (ids fresh) first).fresh, begun.session]
      refine ⟨later.session, ?_, later.used⟩
      simp only [Reaction.followedBy, List.map_append, begun.effects, later.effects]

/-- Of the events of an operation only the last can be refused. -/
theorem events_plain (operation : Operation) :
    ∀ event ∈ (session.events operation).dropLast, event.isPlain = true := by
  cases operation with
  | send event => exact List.forall_mem_nil _
  | unfocus =>
    simp only [events]
    split
    · exact List.forall_mem_singleton.mpr rfl
    · exact List.forall_mem_nil _
  | select index =>
    simp only [events]
    cases session.context.results[index]? <;> exact List.forall_mem_nil _
  | complete =>
    simp only [events]
    cases session.context.completion <;> exact List.forall_mem_nil _
  | submit => exact List.forall_mem_nil _
  | typeText text =>
    simp only [events]
    split
    · exact List.forall_mem_nil _
    · exact List.forall_mem_singleton.mpr rfl

/-- An operation does the same under other ids. -/
theorem perform_renumber (operation : Operation) :
    (session.perform operation fresh).Renumbers ids fresh
      ((session.renumber ids).perform operation (ids fresh)) := by
  have same : (session.renumber ids).events operation = session.events operation := by
    cases operation <;> rfl
  rw [perform, perform, same]
  exact session.sendAll_renumber ids fresh _ (session.events_plain operation)

end Session

end DatasetPicker.Selector
