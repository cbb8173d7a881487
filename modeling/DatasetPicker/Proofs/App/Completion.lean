import DatasetPicker.Proofs.App.Typing
import DatasetPicker.Proofs.Selector.Offers

/-!
# Taking the completion

A completion is the shortest name that begins with the text, so the name is its own completion
with nothing left to type: to take it twice is to take it once. What is left of it can also be
typed, letter by letter, and that comes to the same.
-/

namespace DatasetPicker

namespace Selector.Session

/-- Only an edit offers a completion. -/
theorem Coherent.completing {session : Session} (coherent : session.Coherent)
    {completion : Completion} (offered : session.context.completion = some completion) :
    session.mode.isEditing = true := by
  cases mode : session.mode with
  | reading =>
    have settled := (coherent.reading mode).completion
    rw [offered] at settled
    contradiction
  | editing input results => rfl

variable (session : Session) (fresh : ErrorId)

/-- Where no completion is offered, taking it does nothing at all. -/
theorem perform_complete_none (absent : session.context.completion = none) :
    session.perform .complete fresh = { session, fresh } := by
  rw [perform, events, absent]
  rfl

/-- Taking the completion makes its name the text, and the name is its own completion with nothing
left to type. Then taking it again changes nothing, and nobody is told of it. -/
theorem complete_settles (coherent : session.Coherent) (completion : Completion)
    (offered : session.context.completion = some completion) :
    let taken := session.perform .complete fresh
    taken.session = ⟨session.mode, session.context.retype completion.value⟩ ∧
      taken.session.context.completion = some ⟨completion.value, ""⟩ ∧
      (taken.session.perform .complete taken.fresh).Silent taken.session taken.fresh := by
  intro taken
  have editing := coherent.completing offered
  have silent := perform_complete session fresh completion editing offered
  have found := coherent.offering.completes offered
  have settled : (session.context.retype completion.value).completion =
      some ⟨completion.value, ""⟩ :=
    completion?_self _ _ (completion_nonempty _ _ _ found) (completion_completes _ _ _ found).1
  rw [silent.session, silent.unused]
  exact ⟨rfl, settled, perform_complete ⟨session.mode, session.context.retype completion.value⟩
    fresh ⟨completion.value, ""⟩ editing settled⟩

end Selector.Session

/-! ## Typing the rest -/

namespace App.Key

/-- Keys that are letters append them. -/
theorem editAll_letters (text letters : List Char) (keys : List Key)
    (codes : keys.map Key.code = letters.map .char) : editAll text keys = text ++ letters := by
  induction keys generalizing text letters with
  | nil =>
    rw [List.map_eq_nil_iff.mp codes.symm, List.append_nil]
    rfl
  | cons key rest ih =>
    obtain ⟨letter, others, rfl, code, behind⟩ := List.map_eq_cons_iff.mp codes.symm
    have appended : key.edit text = text ++ [letter] := by
      rw [edit, ← code]
      rfl
    rw [editAll, List.foldl_cons, appended]
    exact (ih _ others behind.symm).trans (by rw [List.append_assoc, List.singleton_append])

/-- Keys that are letters have an effect, if there are any. -/
theorem anyActs_letters (text letters : List Char) (keys : List Key)
    (codes : keys.map Key.code = letters.map .char) (some : letters ≠ []) :
    anyActs text keys = true := by
  obtain ⟨letter, others, rfl⟩ := List.exists_cons_of_ne_nil some
  obtain ⟨⟨_, modifiers⟩, rest, rfl, rfl, -⟩ := List.map_eq_cons_iff.mp codes
  rw [anyActs, acts_char, Bool.true_or]

end App.Key

namespace Engine

/-- Taking the completion of a session makes its name the text, with nothing left to type, and
taking it again changes nothing. If something was left to type and the focus is in the input, then
keys that type just these letters lead to the same session. Where no completion is offered,
taking it does nothing at all. -/
theorem completion_settles {candidates : List String} (engine : Engine)
    (reached : Selector.Session.Reached candidates engine.app.header.session)
    (fresh : Selector.ErrorId) :
    let session := engine.app.header.session
    let taken := session.perform .complete fresh
    (∀ completion, session.context.completion = some completion →
      taken.session.context.completion = some ⟨completion.value, ""⟩ ∧
      taken.session.context.value = completion.value ∧
      (taken.session.perform .complete taken.fresh).Silent taken.session taken.fresh ∧
      ∀ keys : List App.Key, completion.placeholder ≠ "" → session.mode.isFocused = true →
        keys.map App.Key.code = completion.placeholder.toList.map .char →
        (∀ key ∈ keys, key.types = true) →
        (engine.processAll (keys.map .inputKey)).1.app.header.session = taken.session) ∧
    (session.context.completion = none → taken = { session, fresh }) := by
  intro session taken
  have coherent : session.Coherent := reached.coherent
  refine ⟨?_, session.perform_complete_none fresh⟩
  intro completion offered
  obtain ⟨after, settled, again⟩ := session.complete_settles fresh coherent completion offered
  refine ⟨settled, congrArg (·.context.value) after, again, ?_⟩
  intro keys left focused codes typing
  obtain ⟨-, whole⟩ :=
    Selector.completion_completes _ _ _ (coherent.offering.completes offered)
  have acts : App.Key.anyActs session.context.value.toList keys = true :=
    App.Key.anyActs_letters _ _ keys codes (mt String.toList_eq_nil_iff.mp left)
  obtain ⟨changes, -, -⟩ :=
    engine.processAll_typing keys (coherent.completing offered) typing
  obtain ⟨layout, changed⟩ := changes acts
  have typed : String.ofList (App.Key.editAll session.context.value.toList keys) =
      completion.value := by
    rw [App.Key.editAll_letters _ _ keys codes, ← String.toList_append, String.ofList_toList,
      whole]
  calc
    (engine.processAll (keys.map .inputKey)).1.app.header.session
    _ = session.retyped completion.value := by rw [changed, typed]; rfl
    _ = ⟨session.mode, session.context.retype completion.value⟩ := by
      rw [Selector.Session.retyped, session.mode.focus_focused focused]
    _ = taken.session := after.symm

/-- The name is listed twice and begins another one. Two letters are left of it, and the second is
typed while Shift is held. -/
theorem completion_settles_letters :
    let session := (((Selector.Session.start "old" ["betaMAX", "betA", "betA"] (some .server)
      .first).session.perform (.send .edit) .first).session.perform (.typeText "be") .first).session
    let header : Header := { branding := {}, session, backend := { kind := .writer } }
    let engine : Engine := { app := App.start header {} (.fixed {}) 3000 .first }
    let keys : List App.Key := [⟨.char 't', {}⟩, ⟨.char 'A', ⟨true, false, false⟩⟩]
    let taken := (session.perform .complete .first).session
    session.context.completion = some ⟨"betA", "tA"⟩ ∧
      taken.context.completion = some ⟨"betA", ""⟩ ∧ taken.context.value = "betA" ∧
      (engine.processAll (keys.map .inputKey)).1.app.header.session = taken := by
  intro session header engine keys taken
  have reached : Selector.Session.Reached ["betaMAX", "betA", "betA"]
      engine.app.header.session :=
    .perform (.perform (.start "old" ["betaMAX", "betA", "betA"] (some .server) .first)
      (.send .edit) .first) (.typeText "be") .first
  have offered : session.context.completion = some ⟨"betA", "tA"⟩ := by decide +kernel
  obtain ⟨settled, text, -, typed⟩ := (engine.completion_settles reached .first).1 _ offered
  exact ⟨offered, settled, text,
    typed keys (by decide) (by decide +kernel) (by decide +kernel) (by decide)⟩

end Engine

end DatasetPicker
