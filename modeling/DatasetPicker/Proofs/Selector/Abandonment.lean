import DatasetPicker.Proofs.Selector.Choice
import DatasetPicker.Proofs.Selector.Coherence

/-!
# Abandoned edits

An edit can type, move, point and try names that are refused for as long as it likes. Until a
feed, a known name or a blur ends it, it keeps what it began with: the known values, what is
committed, the listener and the text to return to. So an abandoned edit leaves no trace. The
session is what it was, the listener was told nothing, and all effects are rejections.
-/

namespace DatasetPicker.Selector

namespace Event

/-- The event does not end an edit among the known values. -/
def isOpen (values : List String) : Event → Bool
  | .setValues .. | .blur => false
  | .commit value => !values.contains value
  | _ => true

/-- An event that does not end an edit is plain, or it commits an unknown value. -/
theorem isOpen_cases {values : List String} {event : Event} (goesOn : event.isOpen values = true) :
    (event.isPlain = true ∧ event ≠ .blur) ∨ ∃ value, event = .commit value ∧ value ∉ values := by
  cases event with
  | setValues value values listener => contradiction
  | blur => contradiction
  | commit value =>
    right
    exact ⟨value, rfl, by simpa [isOpen] using goesOn⟩
  | _ =>
    left
    exact ⟨rfl, nofun⟩

end Event

/-- A commit was refused. -/
def Effect.isRejection : Effect → Bool
  | .committed _ => false
  | .rejected _ => true

/-- Nobody is told anything and nothing is committed. -/
structure Reaction.Mute (reaction : Reaction) : Prop where
  told : reaction.told = []
  effects : ∀ effect ∈ reaction.effects, effect.isRejection = true

namespace Reaction

/-- A quiet reaction is mute. -/
theorem Quiet.mute {before : Context} {fresh : ErrorId} {reaction : Reaction}
    (quiet : reaction.Quiet before fresh) : reaction.Mute := by
  refine ⟨quiet.told, ?_⟩
  intro effect among
  rw [quiet.effects] at among
  contradiction

/-- A silent reaction is mute. -/
theorem Silent.mute {after : Session} {fresh : ErrorId} {reaction : Reaction}
    (silent : reaction.Silent after fresh) : reaction.Mute := by
  refine ⟨silent.told, ?_⟩
  intro effect among
  rw [silent.effects] at among
  contradiction

/-- Mute reactions are mute together. -/
theorem Mute.followedBy {first later : Reaction} (begun : first.Mute) (ended : later.Mute) :
    (first.followedBy later).Mute := by
  refine ⟨?_, ?_⟩
  · rw [followedBy_told, begun.told, ended.told, List.nil_append]
  · intro effect among
    obtain earlier | after := List.mem_append.mp among
    · exact begun.effects effect earlier
    · exact ended.effects effect after

end Reaction

/-- A settled context has nothing but the known values, what is committed and the listener. -/
theorem Context.Settled.eq_restored {context : Context} (settled : context.Settled) :
    context =
      { values := context.values, value := context.committed, committed := context.committed,
        previous := context.committed, listener := context.listener } := by
  obtain ⟨value, previous, results, current, completion, error⟩ := settled
  cases context
  simp_all

namespace Session

/-- The session is in an edit that began with the context, which it can return to. -/
structure Detour (origin : Context) (session : Session) : Prop where
  editing : session.mode.isEditing = true
  values : session.context.values = origin.values
  committed : session.context.committed = origin.committed
  listener : session.context.listener = origin.listener
  previous : session.context.previous = origin.value

/-- An edit begins as a detour. -/
theorem send_edit_detour (context : Context) (fresh : ErrorId) :
    Detour context (send ⟨.reading, context⟩ .edit fresh).session :=
  ⟨rfl, rfl, rfl, rfl, rfl⟩

/-- A plain event other than a blur goes on with the edit, and keeps the text to return to. -/
theorem transition_previous (input : Focus) (results : Hover) (context : Context)
    (event : Event) (fresh : ErrorId) (plain : event.isPlain = true) (stays : event ≠ .blur) :
    let result := transition (.editing input results) context event fresh
    result.mode.isEditing = true ∧ result.context.previous = context.previous := by
  cases event with
  | setValues value values listener => contradiction
  | commit value => contradiction
  | blur => contradiction
  | previousResult =>
    obtain ⟨value, current, moved⟩ := moveUp_changes context
    simp only [transition, moved]
    exact ⟨rfl, trivial⟩
  | _ => exact ⟨rfl, rfl⟩

/-- A detour goes on, and is mute, with every event that does not end it. -/
theorem Detour.send {origin : Context} {session : Session} (detour : session.Detour origin)
    (event : Event) (fresh : ErrorId) (goesOn : event.isOpen origin.values = true) :
    (session.send event fresh).session.Detour origin ∧ (session.send event fresh).Mute := by
  obtain ⟨plain, stays⟩ | ⟨value, rfl, unknown⟩ := Event.isOpen_cases goesOn
  · have quiet := send_quiet session event fresh plain
    obtain ⟨mode, context⟩ := session
    cases mode with
    | reading => exact absurd detour.editing Bool.false_ne_true
    | editing input results =>
      obtain ⟨editing, previous⟩ :=
        transition_previous input results context event fresh plain stays
      exact ⟨⟨editing, quiet.values.trans detour.values, quiet.committed.trans detour.committed,
        quiet.listener.trans detour.listener, previous.trans detour.previous⟩, quiet.mute⟩
  · rw [← detour.values] at unknown
    rw [send_commit_unknown session value fresh detour.editing unknown]
    refine ⟨⟨detour.editing, detour.values, detour.committed, detour.listener,
      detour.previous⟩, rfl, ?_⟩
    intro effect among
    rw [List.mem_singleton.mp among]
    rfl

/-- A detour goes on, and is mute, along events that do not end it. -/
theorem Detour.sendAll {origin : Context} {session : Session} (detour : session.Detour origin)
    (fresh : ErrorId) (events : List Event)
    (goOn : ∀ event ∈ events, event.isOpen origin.values = true) :
    (session.sendAll fresh events).session.Detour origin ∧
      (session.sendAll fresh events).Mute := by
  induction events generalizing session fresh with
  | nil => exact ⟨detour, (sendAll_nil_quiet session fresh).mute⟩
  | cons event rest ih =>
    obtain ⟨now, later⟩ := List.forall_mem_cons.mp goOn
    obtain ⟨still, begun⟩ := detour.send event fresh now
    obtain ⟨goneOn, ended⟩ := ih still (session.send event fresh).fresh later
    exact ⟨goneOn, begun.followedBy ended⟩

/-- A detour that is abandoned leads back to the context it began with. -/
theorem Detour.abandon {origin : Context} {session : Session} (detour : session.Detour origin)
    (settled : origin.Settled) : session.context.abandon = origin :=
  let context := session.context
  calc context.abandon
    _ = { values := context.values, value := context.previous, committed := context.committed,
          previous := context.previous, listener := context.listener } := rfl
    _ = { values := origin.values, value := origin.committed, committed := origin.committed,
          previous := origin.committed, listener := origin.listener } := by
      rw [detour.values, detour.committed, detour.listener, detour.previous, settled.value]
    _ = origin := settled.eq_restored.symm

/-- A blur abandons a detour, and is mute. -/
theorem Detour.blur {context : Context} {session : Session} (detour : session.Detour context)
    (settled : context.Settled) (fresh : ErrorId) :
    (session.send .blur fresh).session = ⟨.reading, context⟩ ∧
      (session.send .blur fresh).Mute := by
  refine ⟨?_, (send_quiet session .blur fresh rfl).mute⟩
  rw [← detour.abandon settled]
  have editing := detour.editing
  obtain ⟨mode, context⟩ := session
  cases mode with
  | reading => contradiction
  | editing input results => rfl

/-- Leaving the input abandons a detour while the pointer is elsewhere, and is mute. -/
theorem Detour.unfocus {context : Context} {session : Session} (detour : session.Detour context)
    (settled : context.Settled) (elsewhere : session.mode.isHovering = false)
    (fresh : ErrorId) :
    (session.perform .unfocus fresh).session = ⟨.reading, context⟩ ∧
      (session.perform .unfocus fresh).Mute := by
  have silent := perform_unfocus_elsewhere session fresh detour.editing elsewhere
  rw [detour.abandon settled] at silent
  exact ⟨silent.session, silent.mute⟩

/-- An edit that is abandoned leaves no trace, whatever went on in it as long as no feed, no
blur and no commit of a known name ended it. A blur leads back to the session that the edit
began in, and so does leaving the input while the pointer is elsewhere. No listener was told
anything, and every effect is a rejection. -/
theorem abandonment_traceless {candidates : List String} {session : Session}
    (reached : Reached candidates session) (reading : session.mode = .reading)
    (fresh : ErrorId) (events : List Event)
    (goOn : ∀ event ∈ events, event.isOpen session.context.values = true) :
    let edited := session.sendAll fresh (.edit :: events)
    let blurred := edited.followedBy (edited.session.send .blur edited.fresh)
    let left := edited.followedBy (edited.session.perform .unfocus edited.fresh)
    (blurred.session = session ∧ blurred.told = [] ∧
        ∀ effect ∈ blurred.effects, effect.isRejection = true) ∧
      (edited.session.mode.isHovering = false →
        left.session = session ∧ left.told = [] ∧
          ∀ effect ∈ left.effects, effect.isRejection = true) := by
  obtain ⟨mode, context⟩ := session
  subst reading
  intro edited blurred left
  have settled : context.Settled := reached.coherent.reading rfl
  obtain ⟨detour, mute⟩ : edited.session.Detour context ∧ edited.Mute := by
    obtain ⟨detour, later⟩ := (send_edit_detour context fresh).sendAll fresh events goOn
    exact ⟨detour, (send_quiet _ .edit fresh rfl).mute.followedBy later⟩
  constructor
  · obtain ⟨back, silent⟩ := detour.blur settled edited.fresh
    have whole := mute.followedBy silent
    exact ⟨back, whole.told, whole.effects⟩
  · intro elsewhere
    obtain ⟨back, silent⟩ := detour.unfocus settled elsewhere edited.fresh
    have whole := mute.followedBy silent
    exact ⟨back, whole.told, whole.effects⟩

/-- Leaving an edit after typing, moving and a refused name. -/
theorem abandonment_traceless_refused :
    let session := (start "alpha" ["alpha", "beta"] (some .server) .first).session
    let events : List Event :=
      [.change "be", .enterResults, .commit "be", .nextResult, .leaveResults]
    let edited := session.sendAll .first (.edit :: events)
    let left := edited.followedBy (edited.session.perform .unfocus edited.fresh)
    edited.session.context.value = "beta" ∧ edited.session.mode.isHovering = false ∧
      left.effects = [.rejected ⟨.first, "be"⟩] ∧ left.session = session ∧ left.told = [] := by
  intro session events edited left
  have goOn : ∀ event ∈ events, event.isOpen session.context.values = true := by
    decide +kernel
  have elsewhere : edited.session.mode.isHovering = false := by decide +kernel
  obtain ⟨back, told, -⟩ := (abandonment_traceless
    (.start "alpha" ["alpha", "beta"] (some .server) .first) rfl .first events goOn).2 elsewhere
  exact ⟨by decide +kernel, elsewhere, by decide +kernel, back, told⟩

end Session

end DatasetPicker.Selector
