import DatasetPicker.Proofs.Selector.Operation
import Mathlib.Data.List.Induction
import Mathlib.Data.List.Infix

/-!
# The regions of an edit

Four events tell whether the input has the focus and whether the pointer is over the results.
They set their region and touch nothing else, and no other event looks at a region. So a run
without them comes to the same context, with the same effects. An edit that goes on has each
region as it was set last, and as it begins where nothing set it.
-/

namespace DatasetPicker.Selector

namespace Event

/-- Where the event puts the focus. -/
def focus? : Event → Option Focus
  | .focusInput => some .focused
  | .unfocusInput => some .unfocused
  | _ => none

/-- Where the event puts the pointer. -/
def hover? : Event → Option Hover
  | .enterResults => some .hovering
  | .leaveResults => some .notHovering
  | _ => none

/-- The event sets a region of an edit. -/
def isRegional (event : Event) : Bool := event.focus?.isSome || event.hover?.isSome

/-- What the last of the events that set something sets; initially it is as given. -/
def lastSet {α : Type} (setting : Event → Option α) (initial : α) (events : List Event) : α :=
  (events.filterMap setting).getLast?.getD initial

/-- What an event sets is what the others find. -/
theorem lastSet_cons {α : Type} (setting : Event → Option α) (initial : α) (event : Event)
    (rest : List Event) :
    lastSet setting initial (event :: rest) =
      lastSet setting ((setting event).getD initial) rest := by
  unfold lastSet
  cases set : setting event with
  | none => rw [List.filterMap_cons_none set, Option.getD_none]
  | some value =>
    rw [List.filterMap_cons_some set, List.getLast?_cons, Option.getD_some, Option.getD_some]

/-- An event that sets a region is neither a feed nor a commit. -/
theorem isRegional_isPlain (event : Event) (regional : event.isRegional = true) :
    event.isPlain = true := by
  cases event with
  | setValues value values listener => contradiction
  | commit value => contradiction
  | _ => rfl

end Event

/-! ## Runs without the regions -/

/-- The sessions differ in the regions of an edit at most. -/
structure Session.Alike (left right : Session) : Prop where
  context : left.context = right.context
  editing : left.mode.isEditing = right.mode.isEditing

namespace Reaction

/-- Apart from their records the reactions differ in the regions of an edit at most. -/
structure Agrees (left right : Reaction) : Prop where
  session : left.session.Alike right.session
  fresh : left.fresh = right.fresh
  effects : left.effects = right.effects
  told : left.told = right.told

/-- Reactions that agree one by one agree as a whole. -/
theorem Agrees.followedBy {first later first' later' : Reaction} (begun : first.Agrees first')
    (ended : later.Agrees later') :
    (first.followedBy later).Agrees (first'.followedBy later') := by
  refine ⟨ended.session, ended.fresh, ?_, ?_⟩
  · change first.effects ++ later.effects = first'.effects ++ later'.effects
    rw [begun.effects, ended.effects]
  · rw [followedBy_told, followedBy_told, begun.told, ended.told]

/-- A quiet reaction first makes no difference. -/
theorem Agrees.afterQuiet {context : Context} {fresh : ErrorId} {first later other : Reaction}
    (quiet : first.Quiet context fresh) (ended : later.Agrees other) :
    (first.followedBy later).Agrees other := by
  refine ⟨ended.session, ended.fresh, ?_, ?_⟩
  · change first.effects ++ later.effects = other.effects
    rw [quiet.effects, List.nil_append, ended.effects]
  · rw [followedBy_told, quiet.told, List.nil_append, ended.told]

end Reaction

/-- Apart from the regions, what becomes of an edit does not depend on them. -/
theorem transition_alike (input input' : Focus) (results results' : Hover) (context : Context)
    (event : Event) (fresh : ErrorId) (silent : event.isRegional = false) :
    let left := transition (.editing input results) context event fresh
    let right := transition (.editing input' results') context event fresh
    left.context = right.context ∧ left.effects = right.effects ∧
      left.mode.isEditing = right.mode.isEditing := by
  cases event with
  | focusInput => contradiction
  | unfocusInput => contradiction
  | enterResults => contradiction
  | leaveResults => contradiction
  | commit value =>
    simp only [transition, commit]
    split <;> exact ⟨rfl, rfl, rfl⟩
  | _ => exact ⟨rfl, rfl, rfl⟩

namespace Session

variable {left right : Session}

/-- An event that sets a region leaves the session as it is otherwise. -/
theorem send_regional (session : Session) (event : Event) (fresh : ErrorId)
    (regional : event.isRegional = true) :
    (session.send event fresh).session.Alike session := by
  obtain ⟨mode, context⟩ := session
  cases event with
  | focusInput => cases mode <;> exact ⟨rfl, rfl⟩
  | unfocusInput => cases mode <;> exact ⟨rfl, rfl⟩
  | enterResults => cases mode <;> exact ⟨rfl, rfl⟩
  | leaveResults => cases mode <;> exact ⟨rfl, rfl⟩
  | _ => contradiction

/-- Every other event does the same to sessions that are alike. -/
theorem Alike.send (alike : left.Alike right) (event : Event) (fresh : ErrorId)
    (silent : event.isRegional = false) :
    (left.send event fresh).Agrees (right.send event fresh) := by
  obtain ⟨leftMode, context⟩ := left
  obtain ⟨rightMode, rightContext⟩ := right
  obtain ⟨rfl, editing⟩ := alike
  cases leftMode with
  | reading =>
    cases rightMode with
    | reading => exact ⟨⟨rfl, rfl⟩, rfl, rfl, rfl⟩
    | editing input results => contradiction
  | editing input results =>
    cases rightMode with
    | reading => contradiction
    | editing input' results' =>
      obtain ⟨after, effects, mode⟩ :=
        transition_alike input input' results results' context event fresh silent
      refine ⟨⟨after, mode⟩, congrArg (nextFresh fresh) effects, effects, ?_⟩
      rw [send_told, send_told]
      simp only [Session.send, after, effects]

/-- Along a run the events that set a region can be left out. -/
theorem Alike.sendAll (alike : left.Alike right) (fresh : ErrorId) (events : List Event) :
    (left.sendAll fresh events).Agrees
      (right.sendAll fresh (events.filter (!·.isRegional))) := by
  induction events generalizing left right fresh with
  | nil => exact ⟨alike, rfl, rfl, rfl⟩
  | cons event rest ih =>
    cases regional : event.isRegional with
    | true =>
      have quiet := send_quiet left event fresh (event.isRegional_isPlain regional)
      have kept := send_regional left event fresh regional
      have later := ih ⟨kept.context.trans alike.context, kept.editing.trans alike.editing⟩ fresh
      rw [List.filter_cons_of_neg (by simp [regional]), sendAll_cons, quiet.fresh]
      exact .afterQuiet quiet later
    | false =>
      have step := alike.send event fresh regional
      have later := ih step.session (left.send event fresh).fresh
      rw [List.filter_cons_of_pos (by simp [regional]), sendAll_cons, sendAll_cons,
        ← step.fresh]
      exact step.followedBy later

/-! ## Edits that go on -/

/-- An edit that an event does not end has each region as the event sets it, or as before. -/
theorem transition_regions (input : Focus) (results : Hover) (context : Context)
    (event : Event) (fresh : ErrorId)
    (lasting : (transition (.editing input results) context event fresh).mode.isEditing = true) :
    (transition (.editing input results) context event fresh).mode =
      .editing (event.focus?.getD input) (event.hover?.getD results) := by
  cases event with
  | setValues value values listener => contradiction
  | blur => contradiction
  | commit value =>
    simp only [transition, commit] at lasting ⊢
    split
    · rename_i known
      rw [if_pos known] at lasting
      contradiction
    · rfl
  | _ => rfl

/-- An edit that goes on along a run has each region as it was set last. -/
theorem sendAll_regions (input : Focus) (results : Hover) (context : Context) (fresh : ErrorId)
    (events : List Event)
    (lasting : ∀ part, part <+: events →
      (sendAll ⟨.editing input results, context⟩ fresh part).session.mode.isEditing = true) :
    (sendAll ⟨.editing input results, context⟩ fresh events).session.mode =
      .editing (Event.lastSet Event.focus? input events)
        (Event.lastSet Event.hover? results events) := by
  induction events generalizing input results context fresh with
  | nil => rfl
  | cons event rest ih =>
    have goesOn := lasting [event] (List.cons_prefix_cons.mpr ⟨rfl, List.nil_prefix⟩)
    have step := transition_regions input results context event fresh goesOn
    have later := ih (event.focus?.getD input) (event.hover?.getD results)
      (transition (.editing input results) context event fresh).context
      (send ⟨.editing input results, context⟩ event fresh).fresh
    rw [← step] at later
    rw [Event.lastSet_cons, Event.lastSet_cons]
    exact later fun part ahead =>
      lasting (event :: part) (List.cons_prefix_cons.mpr ⟨rfl, ahead⟩)

/-- Between the events, an edit begins that the session is in ever after. -/
structure Enters (session : Session) (fresh : ErrorId) (before after : List Event) : Prop where
  /-- Before it nothing is edited. -/
  reading : (session.sendAll fresh before).session.mode = .reading
  /-- It begins, and goes on to the end. -/
  lasting : ∀ part, part <+: after →
    (session.sendAll fresh (before ++ .edit :: part)).session.mode.isEditing = true

/-- While reading, only `edit` begins an edit. -/
theorem send_edits (session : Session) (event : Event) (fresh : ErrorId)
    (reading : session.mode = .reading)
    (editing : (session.send event fresh).session.mode.isEditing = true) : event = .edit := by
  obtain ⟨mode, context⟩ := session
  subst reading
  cases event with
  | edit => rfl
  | _ => contradiction

/-- A run that ends in an edit and was reading at some time has entered that edit. -/
theorem exists_enters (session : Session) (fresh : ErrorId) (events : List Event)
    (editing : (session.sendAll fresh events).session.mode.isEditing = true)
    (was : ∃ part, part <+: events ∧ (session.sendAll fresh part).session.mode = .reading) :
    ∃ before after, events = before ++ .edit :: after ∧
      session.Enters fresh before after := by
  -- The last event decides: the edit begins with it, or it went on before and was entered there.
  induction events using List.reverseRecOn with
  | nil =>
    obtain ⟨part, ahead, reading⟩ := was
    rw [List.prefix_nil.mp ahead] at reading
    rw [reading] at editing
    contradiction
  | append_singleton events event ih =>
    have last : (session.sendAll fresh (events ++ [event])).session =
        ((session.sendAll fresh events).session.send event
          (session.sendAll fresh events).fresh).session := by
      rw [sendAll_append, sendAll_one]
      rfl
    cases mode : (session.sendAll fresh events).session.mode with
    | reading =>
      have only : event = .edit := send_edits _ event _ mode (last ▸ editing)
      refine ⟨events, [], by rw [only], mode, ?_⟩
      intro part ahead
      rw [List.prefix_nil.mp ahead, ← only]
      exact editing
    | editing input results =>
      obtain ⟨part, ahead, reading⟩ := was
      have shorter : part <+: events := by
        obtain whole | shorter := List.prefix_concat_iff.mp ahead
        · rw [← whole, reading] at editing
          contradiction
        · exact shorter
      obtain ⟨before, after, rfl, enters⟩ := ih (by rw [mode]; rfl) ⟨part, shorter, reading⟩
      refine ⟨before, after ++ [event], by simp, enters.reading, ?_⟩
      intro part ahead
      obtain whole | shorter := List.prefix_concat_iff.mp ahead
      · rw [whole, ← List.cons_append, ← List.append_assoc]
        exact editing
      · exact enters.lasting part shorter

/-- In an edit that a run entered, each region is as it was set last since then. -/
theorem Enters.regions {session : Session} {fresh : ErrorId} {before after : List Event}
    (enters : session.Enters fresh before after) :
    (session.sendAll fresh (before ++ .edit :: after)).session.mode =
      .editing (Event.lastSet Event.focus? .focused after)
        (Event.lastSet Event.hover? .notHovering after) := by
  obtain ⟨reading, lasting⟩ := enters
  simp only [sendAll_append, Reaction.followedBy] at lasting ⊢
  generalize (session.sendAll fresh before).session = begun at reading lasting ⊢
  obtain ⟨mode, context⟩ := begun
  obtain rfl : mode = .reading := reading
  exact sendAll_regions .focused .notHovering _ _ after lasting

/-- The events that set a region can be left out of any run: the context, the effects with the
numbers of the rejections, what listeners are told and whether a name is edited stay the
same. Where a run that was reading ends in an edit, there is an event that began it. The
focus and the pointer are then as they were set last since that event, in the input and
elsewhere if nothing set them. -/
theorem regions_orthogonal (session : Session) (fresh : ErrorId) (events : List Event) :
    let run := session.sendAll fresh events
    let bare := session.sendAll fresh (events.filter (!·.isRegional))
    (bare.session.context = run.session.context ∧ bare.effects = run.effects ∧
        bare.told = run.told ∧ bare.session.mode.isEditing = run.session.mode.isEditing) ∧
      (∀ before after, events = before ++ .edit :: after → session.Enters fresh before after →
        run.session.mode =
          .editing (Event.lastSet Event.focus? .focused after)
            (Event.lastSet Event.hover? .notHovering after)) ∧
      (run.session.mode.isEditing = true →
        (∃ part, part <+: events ∧ (session.sendAll fresh part).session.mode = .reading) →
        ∃ before after, events = before ++ .edit :: after ∧
          session.Enters fresh before after) := by
  intro run bare
  have agrees : run.Agrees bare := Alike.sendAll ⟨rfl, rfl⟩ fresh events
  refine ⟨⟨agrees.session.context.symm, agrees.effects.symm, agrees.told.symm,
    agrees.session.editing.symm⟩, ?_, exists_enters session fresh events⟩
  rintro before after rfl enters
  exact enters.regions

/-- A rejection and a hover of a second edit, with and without the regions. -/
theorem regions_orthogonal_second_edit :
    let session : Session := ⟨.reading, .feed "a" ["a", "b"] none⟩
    let after : List Event :=
      [.unfocusInput, .enterResults, .commit "x", .focusInput, .change "b"]
    let run := session.sendAll .first ([.edit, .enterResults, .blur] ++ .edit :: after)
    session.Enters .first [.edit, .enterResults, .blur] after ∧
      run.session.mode = .editing .focused .hovering ∧
      (session.sendAll .first [.edit, .blur, .edit, .commit "x", .change "b"]).effects =
        run.effects ∧
      run.effects = [.rejected ⟨.first, "x"⟩] := by
  intro session after run
  have enters : session.Enters .first [.edit, .enterResults, .blur] after := by
    refine ⟨by decide +kernel, ?_⟩
    have lasting : ∀ part ∈ after.inits, (session.sendAll .first
        ([.edit, .enterResults, .blur] ++ .edit :: part)).session.mode.isEditing = true := by
      decide +kernel
    exact fun part ahead => lasting part ((List.mem_inits part after).mpr ahead)
  obtain ⟨⟨-, effects, -⟩, regions, -⟩ := regions_orthogonal session .first
    ([.edit, .enterResults, .blur] ++ .edit :: after)
  exact ⟨enters, regions _ after rfl enters, effects, by decide +kernel⟩

end Session

end DatasetPicker.Selector
