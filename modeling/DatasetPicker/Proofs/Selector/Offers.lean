import DatasetPicker.Proofs.Selector.Choice
import DatasetPicker.Proofs.Selector.Coherence

/-!
# What is offered is accepted

While a name is edited, a session offers its results, highlights one of them, and completes the
text. All of these are known values, whatever was typed and whichever feeds came before. So to
submit the highlight, to select a result and to take the completion are never refused.
-/

namespace DatasetPicker.Selector

/-- The reaction commits a name: the edit ends with it as the text and as what is committed,
nothing is refused, and the commit has an effect exactly if it changes what is committed. -/
structure Reaction.Commits (before : Context) (name : String) (reaction : Reaction) : Prop where
  mode : reaction.session.mode = .reading
  value : reaction.session.context.value = name
  committed : reaction.session.context.committed = name
  error : reaction.session.context.error = none
  effects : reaction.effects = if name = before.committed then [] else [.committed name]

/-- A reaction that accepts a name commits it. -/
theorem Reaction.Accepts.commits {before : Context} {name : String} {fresh : ErrorId}
    {reaction : Reaction} (accepts : reaction.Accepts before name fresh) :
    reaction.Commits before name := by
  refine ⟨?_, ?_, ?_, ?_, accepts.effects⟩
  · rw [accepts.ended]
  · rw [accepts.ended]
    rfl
  · rw [accepts.ended]
    rfl
  · rw [accepts.ended]
    rfl

namespace Context

/-- What is offered as the completion is the completion of the text. -/
theorem Offering.completes {context : Context} (offering : context.Offering)
    {completion : Completion} (offered : context.completion = some completion) :
    completion? context.value context.values = some completion := by
  obtain absent | made := offering.completed
  · rw [absent] at offered
    contradiction
  · exact made.symm.trans offered

/-- The text of an offered completion is a known value. -/
theorem Offering.completion_known {context : Context} (offering : context.Offering)
    {completion : Completion} (offered : context.completion = some completion) :
    completion.value ∈ context.values :=
  (completion_completes _ _ completion (offering.completes offered)).1

/-- A result of an index is a known value. -/
theorem Offering.result_known {context : Context} (offering : context.Offering) {index : Nat}
    {name : String} (listed : context.results[index]? = some name) : name ∈ context.values :=
  offering.results.subset (List.mem_of_getElem? listed)

end Context

namespace Session

variable (session : Session) (fresh : ErrorId)

/-- Submitting a known value accepts it. -/
theorem perform_submit (editing : session.mode.isEditing = true)
    (known : session.context.value ∈ session.context.values) :
    (session.perform .submit fresh).Accepts session.context session.context.value fresh := by
  rw [perform, events, sendAll_one]
  exact send_commit_accepts session fresh session.context.value editing known

/-- Taking the completion makes it the text of the edit, quietly. -/
theorem perform_complete (completion : Completion) (editing : session.mode.isEditing = true)
    (offered : session.context.completion = some completion) :
    (session.perform .complete fresh).Silent
      ⟨session.mode, session.context.retype completion.value⟩ fresh := by
  have only : session.events .complete = [.change completion.value] := by
    rw [events, offered]
    rfl
  rw [perform, only, sendAll_one]
  have quiet := send_quiet session (.change completion.value) fresh rfl
  refine ⟨?_, quiet.fresh, quiet.effects, quiet.told⟩
  obtain ⟨mode, context⟩ := session
  cases mode with
  | reading => contradiction
  | editing input results => rfl

/-- What a session offers is never refused. While a name is edited, submitting commits the
highlighted result, selecting commits the result of the index, and taking the completion, which
has no effect of its own, lets submitting commit it. -/
theorem offers_accepted {candidates : List String} {session : Session}
    (reached : Reached candidates session) (editing : session.mode.isEditing = true)
    (fresh : ErrorId) :
    let context := session.context
    (∀ index, context.current = some index → ∃ inside : index < context.results.length,
      (session.perform .submit fresh).Commits context context.results[index]) ∧
    (∀ index (inside : index < context.results.length),
      (session.perform (.select index) fresh).Commits context context.results[index]) ∧
    (∀ completion, context.completion = some completion →
      let completed := session.perform .complete fresh
      completed.effects = [] ∧
        (completed.session.perform .submit completed.fresh).Commits context completion.value) := by
  intro context
  have offering : context.Offering := reached.coherent.offering
  refine ⟨?_, ?_, ?_⟩
  · intro index highlighted
    have listed := offering.highlighted index highlighted
    obtain ⟨inside, text⟩ := List.getElem?_eq_some_iff.mp listed
    refine ⟨inside, ?_⟩
    rw [text]
    exact (perform_submit session fresh editing (offering.result_known listed)).commits
  · intro index inside
    have listed := List.getElem?_eq_getElem inside
    exact (perform_select session fresh index _ editing listed
      (offering.result_known listed)).commits
  · intro completion offered completed
    have silent := perform_complete session fresh completion editing offered
    refine ⟨silent.effects, ?_⟩
    have known : completion.value ∈ context.values := offering.completion_known offered
    rw [silent.session, silent.unused]
    -- The context that is submitted has another text, but the same names and commit.
    obtain ⟨mode, value, committed, error, effects⟩ :=
      (perform_submit ⟨session.mode, context.retype completion.value⟩ fresh editing known).commits
    exact ⟨mode, value, committed, error, effects⟩

/-- A completion is taken and submitted after the feed was replaced and a commit refused. -/
theorem offers_accepted_completion :
    let fed := (start "old" ["old"] (some .server) .first).session.perform
      (.send (.setValues "old" ["beta", "betamax"] (some .server))) .first
    let edited := fed.session.perform (.send .edit) .first
    let refused := edited.session.perform (.send (.commit "old")) .first
    let session := (refused.session.perform (.typeText "be") refused.fresh).session
    let completed := session.perform .complete .first
    session.mode.isEditing = true ∧
      session.context.completion = some ⟨"beta", "ta"⟩ ∧
      (completed.session.perform .submit completed.fresh).Commits session.context "beta" ∧
      (completed.session.perform .submit completed.fresh).effects = [.committed "beta"] := by
  intro fed edited refused session completed
  have reached : Reached ["beta", "betamax"] session :=
    .perform (.perform (.perform (.perform (.start "old" ["old"] (some .server) .first)
      (.send (.setValues "old" ["beta", "betamax"] (some .server))) .first) (.send .edit) .first)
      (.send (.commit "old")) .first) (.typeText "be") refused.fresh
  have editing : session.mode.isEditing = true := by decide +kernel
  have offered : session.context.completion = some ⟨"beta", "ta"⟩ := by decide +kernel
  have accepted := (offers_accepted reached editing .first).2.2 _ offered
  exact ⟨editing, offered, accepted.2, by decide +kernel⟩

end Session

end DatasetPicker.Selector
