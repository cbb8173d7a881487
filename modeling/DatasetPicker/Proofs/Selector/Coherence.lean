import DatasetPicker.Proofs.Selector.Reached
import DatasetPicker.Proofs.Selector.Search

/-!
# The coherence of a session

Every event changes some of the text, the results, the highlight and the completion, and
leaves the others as they are. What they have to do with each other survives: the results
are known values in their order, the highlighted result is the text in the input, and the
completion is the one of that text. A session that is reading has dropped all of them and
shows what is committed; a session that is editing can return to it.
-/

namespace DatasetPicker.Selector

namespace Context

/-- What is offered fits the text and the known values. -/
structure Offering (context : Context) : Prop where
  /-- The results are known values, in the order of the known values. -/
  results : context.results.Sublist context.values
  /-- The highlighted result is the text. -/
  highlighted : ∀ index, context.current = some index →
    context.results[index]? = some context.value
  /-- A completion is the one of the text. -/
  completed : context.completion = none ∨
    context.completion = completion? context.value context.values

/-- Nothing is offered, and the text is what is committed. -/
structure Settled (context : Context) : Prop where
  value : context.value = context.committed
  previous : context.previous = context.committed
  results : context.results = []
  current : context.current = none
  completion : context.completion = none
  error : context.error = none

/-- Where nothing is offered, nothing offered is amiss. -/
theorem Settled.offering {context : Context} (settled : context.Settled) :
    context.Offering := by
  refine ⟨?_, ?_, .inl settled.completion⟩
  · rw [settled.results]
    exact List.nil_sublist _
  · intro index highlighted
    rw [settled.current] at highlighted
    contradiction

/-! ## The contexts that events lead to -/

/-- A new feed is settled. -/
theorem feed_settled (value : String) (values : List String) (listener : Option Listener) :
    (feed value values listener).Settled :=
  ⟨rfl, rfl, rfl, rfl, rfl, rfl⟩

/-- An accepted value settles the context. -/
theorem accept_settled (value : String) (context : Context) :
    (context.accept value).Settled :=
  ⟨rfl, rfl, rfl, rfl, rfl, rfl⟩

/-- An abandoned edit settles the context if it began with what is committed. -/
theorem abandon_settled (context : Context) (began : context.previous = context.committed) :
    context.abandon.Settled :=
  ⟨began, began, rfl, rfl, rfl, rfl⟩

/-- An edit starts with every known value and the completion of the text. -/
theorem startEditing_offering (context : Context) : context.startEditing.Offering := by
  refine ⟨List.Sublist.refl _, ?_, .inr rfl⟩
  intro index highlighted
  contradiction

/-- The highlight of a typed text is a result that equals it. -/
theorem highlight_result (text : String) (results : List String) (index : Nat)
    (highlighted : highlight? text results = some index) : results[index]? = some text := by
  unfold highlight? at highlighted
  obtain ⟨found, _⟩ := Option.filter_eq_some_iff.mp highlighted
  obtain ⟨inside, equal, _⟩ := List.idxOf?_eq_some_iff.mp found
  rw [List.getElem?_eq_getElem inside, equal]

/-- A changed text is offered what matches it. -/
theorem retype_offering (text : String) (context : Context) :
    (context.retype text).Offering :=
  ⟨matching_sublist text context.values, highlight_result text _, .inr rfl⟩

/-- The highlight that moving down leads to. -/
theorem moveDown_current (context : Context) :
    context.moveDown.current = none ∧ context.results = [] ∨
      ∃ index, context.moveDown.current = some index ∧ index < context.results.length := by
  by_cases empty : context.results = []
  · left
    simp [moveDown, empty]
  · right
    have positive := List.length_pos_iff.mpr empty
    cases before : context.current with
    | none => exact ⟨0, by simp [moveDown, empty, before], positive⟩
    | some index =>
      refine ⟨min (index + 1) (context.results.length - 1), ?_, by omega⟩
      simp [moveDown, empty, before]

/-- Moving down makes the highlighted result the text. -/
theorem moveDown_offering (context : Context) (offering : context.Offering) :
    context.moveDown.Offering := by
  refine ⟨offering.results, ?_, .inl rfl⟩
  intro index highlighted
  obtain ⟨off, _⟩ | ⟨reached, moved, inside⟩ := moveDown_current context
  · rw [off] at highlighted
    contradiction
  · obtain rfl : reached = index := Option.some.inj (moved.symm.trans highlighted)
    have text : context.moveDown.value =
        (context.moveDown.current.bind (context.results[·]?)).getD context.value := rfl
    rw [text, moved, Option.bind_some]
    change context.results[reached]? = _
    rw [List.getElem?_eq_getElem inside, Option.getD_some]

/-- Moving up makes the highlighted result the text, or drops the highlight. -/
theorem moveUp_offering (context : Context) (offering : context.Offering) :
    context.moveUp.Offering := by
  unfold moveUp
  split
  · split
    · rename_i name found
      refine ⟨offering.results, ?_, .inl rfl⟩
      intro index highlighted
      obtain rfl := Option.some.inj highlighted
      exact found
    · exact ⟨offering.results, by simp, .inl rfl⟩
  · exact ⟨offering.results, by simp, .inl rfl⟩

end Context

namespace Session

/-- The parts of a session fit each other. -/
structure Coherent (session : Session) : Prop where
  offering : session.context.Offering
  /-- A session that is reading is settled. -/
  reading : session.mode = .reading → session.context.Settled
  /-- An edit can return to what is committed. -/
  editing : session.mode.isEditing = true →
    session.context.previous = session.context.committed

/-- A settled session that is reading is coherent. -/
theorem coherent_reading (context : Context) (settled : context.Settled) :
    Coherent ⟨.reading, context⟩ :=
  ⟨settled.offering, fun _ => settled, fun editing => by contradiction⟩

/-- A session that is editing is coherent if what is offered fits and the edit can return. -/
theorem coherent_editing (input : Focus) (results : Hover) (context : Context)
    (offering : context.Offering) (began : context.previous = context.committed) :
    Coherent ⟨.editing input results, context⟩ :=
  ⟨offering, fun reading => by contradiction, fun _ => began⟩

/-- While reading, every event keeps the session coherent. -/
theorem send_reading_coherent (context : Context) (event : Event) (fresh : ErrorId)
    (settled : context.Settled) :
    (send ⟨.reading, context⟩ event fresh).session.Coherent := by
  cases event with
  | setValues value values listener =>
    exact coherent_reading _ (Context.feed_settled value values listener)
  | edit =>
    exact coherent_editing _ _ _ (Context.startEditing_offering context) settled.value
  | _ => exact coherent_reading context settled

/-- While editing, every event keeps the session coherent. -/
theorem send_editing_coherent (input : Focus) (results : Hover) (context : Context)
    (event : Event) (fresh : ErrorId) (offering : context.Offering)
    (began : context.previous = context.committed) :
    (send ⟨.editing input results, context⟩ event fresh).session.Coherent := by
  cases event with
  | setValues value values listener =>
    exact coherent_reading _ (Context.feed_settled value values listener)
  | change text => exact coherent_editing _ _ _ (Context.retype_offering text context) began
  | nextResult =>
    exact coherent_editing _ _ _ (Context.moveDown_offering context offering) began
  | previousResult =>
    have offered := Context.moveUp_offering context offering
    obtain ⟨value, current, moved⟩ := moveUp_changes context
    simp only [send, transition]
    rw [moved] at offered ⊢
    exact coherent_editing _ _ _ offered began
  | blur => exact coherent_reading _ (Context.abandon_settled context began)
  | commit value =>
    simp only [send, transition]
    by_cases known : value ∈ context.values
    · rw [commit_known _ _ _ _ known]
      exact coherent_reading _ (Context.accept_settled value context)
    · rw [commit_unknown _ _ _ _ known]
      exact coherent_editing _ _ _
        ⟨offering.results, offering.highlighted, offering.completed⟩ began
  | _ => exact coherent_editing _ _ _ offering began

/-- Every event keeps a session coherent. -/
theorem send_coherent (session : Session) (event : Event) (fresh : ErrorId)
    (coherent : session.Coherent) : (session.send event fresh).session.Coherent := by
  obtain ⟨mode, context⟩ := session
  cases mode with
  | reading => exact send_reading_coherent context event fresh (coherent.reading rfl)
  | editing input results =>
    exact send_editing_coherent input results context event fresh coherent.offering
      (coherent.editing rfl)

/-- Every sequence of events keeps a session coherent. -/
theorem Coherent.sendAll {session : Session} (coherent : session.Coherent) (fresh : ErrorId)
    (events : List Event) : (session.sendAll fresh events).session.Coherent :=
  sendAll_keeps send_coherent session fresh events coherent

/-- Every session reached is coherent. -/
theorem Reached.coherent {candidates : List String} {session : Session}
    (reached : Reached candidates session) : session.Coherent :=
  reached.keeps
    (fun value values listener =>
      coherent_reading _ (Context.feed_settled value values listener))
    send_coherent

/-- In every session reached, the results are known values in their order, the highlighted
result is the text, and a completion is the one of the text and completes it to a known
value. A session that is reading shows what is committed and offers nothing, and one that
is editing keeps what is committed as the text to return to. -/
theorem parts_agree {candidates : List String} {session : Session}
    (reached : Reached candidates session) :
    let context := session.context
    context.results.Sublist context.values ∧
      (∀ index, context.current = some index →
        ∃ inside : index < context.results.length, context.results[index] = context.value) ∧
      (context.completion = none ∨
        context.completion = completion? context.value context.values) ∧
      (∀ completion, context.completion = some completion →
        context.value ++ completion.placeholder = completion.value ∧
          completion.value ∈ context.values) ∧
      (session.mode = .reading →
        context.value = context.committed ∧ context.previous = context.committed ∧
          context.results = [] ∧ context.current = none ∧ context.completion = none ∧
          context.error = none) ∧
      (session.mode.isEditing = true → context.previous = context.committed) := by
  have coherent := reached.coherent
  have offering := coherent.offering
  refine ⟨offering.results, ?_, offering.completed, ?_, ?_, coherent.editing⟩
  · intro index highlighted
    exact List.getElem?_eq_some_iff.mp (offering.highlighted index highlighted)
  · intro completion offered
    obtain absent | made := offering.completed
    · rw [absent] at offered
      contradiction
    · obtain ⟨known, completes⟩ := completion_completes _ _ completion (made.symm.trans offered)
      exact ⟨completes, known⟩
  · intro reading
    have settled := coherent.reading reading
    exact ⟨settled.value, settled.previous, settled.results, settled.current,
      settled.completion, settled.error⟩

/-- A session whose text comes from the second result agrees with itself. -/
theorem parts_agree_second_result :
    let edited := (start "ab" ["ab", "b"] none .first).session.perform (.send .edit) .first
    let once := edited.session.perform (.send .nextResult) .first
    let session := (once.session.perform (.send .nextResult) .first).session
    session.context.current = some 1 ∧ session.context.value = "b" ∧
      session.context.results.Sublist session.context.values ∧
      session.context.previous = session.context.committed := by
  have agreed := parts_agree (.perform (.perform (.perform
    (.start "ab" ["ab", "b"] none .first) (.send .edit) .first) (.send .nextResult) .first)
    (.send .nextResult) .first)
  exact ⟨rfl, rfl, agreed.1, agreed.2.2.2.2.2 rfl⟩

end Session

end DatasetPicker.Selector
