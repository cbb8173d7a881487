import DatasetPicker.Proofs.App.Engine
import DatasetPicker.Proofs.Selector.Choice

/-!
# Typing

While a name is edited, characters are appended to the text and Backspace drops its last
character. Each key looks at the text that is shown and searches again. But what is found depends
on the text and the known names only, so keys typed one by one come to the same as one change to
the text that they make together. Nobody is told of it and no timer is touched.
-/

namespace DatasetPicker

/-! ## Keys -/

namespace App

/-- The key is a character or Backspace. -/
def KeyCode.types : KeyCode → Bool
  | .char _ | .backspace => true
  | _ => false

/-- The text after a key. -/
def KeyCode.edit (text : List Char) : KeyCode → List Char
  | .char letter => text ++ [letter]
  | .backspace => text.dropLast
  | _ => text

namespace Key

/-- The key types, with neither Control nor Alt. -/
def types (key : Key) : Bool :=
  !key.modifiers.control && !key.modifiers.alt && key.code.types

/-- The text after a key. -/
def edit (text : List Char) (key : Key) : List Char := key.code.edit text

/-- The key has an effect: it changes the text. -/
def acts (text : List Char) (key : Key) : Bool := key.edit text != text

/-- The text after some keys. -/
def editAll (text : List Char) (keys : List Key) : List Char := keys.foldl edit text

/-- One of the keys has an effect on the text that it finds. -/
def anyActs (text : List Char) : List Key → Bool
  | [] => false
  | key :: rest => key.acts text || anyActs (key.edit text) rest

/-- A key without effect leaves the text as it is. -/
theorem edit_of_idle (text : List Char) (key : Key) (idle : key.acts text = false) :
    key.edit text = text := by
  simpa [acts] using idle

/-- Keys without effect leave the text as it is. -/
theorem editAll_of_idle (text : List Char) (keys : List Key) (idle : anyActs text keys = false) :
    editAll text keys = text := by
  induction keys with
  | nil => rfl
  | cons key rest ih =>
    obtain ⟨first, others⟩ := Bool.or_eq_false_iff.mp idle
    have same := key.edit_of_idle text first
    rw [same] at others
    rw [editAll, List.foldl_cons, same]
    exact ih others

/-- A character has an effect. -/
theorem acts_char (text : List Char) (letter : Char) (modifiers : Modifiers) :
    (⟨.char letter, modifiers⟩ : Key).acts text = true := by
  have longer : text ++ [letter] ≠ text := by simp
  exact bne_iff_ne.mpr longer

/-- Backspace has an effect where there is something to drop. -/
theorem acts_backspace (text : List Char) (modifiers : Modifiers) (some : text ≠ []) :
    (⟨.backspace, modifiers⟩ : Key).acts text = true := by
  have shorter : text.dropLast ≠ text := by
    intro same
    have lengths := congrArg List.length same
    have positive := List.length_pos_iff.mpr some
    rw [List.length_dropLast] at lengths
    omega
  exact bne_iff_ne.mpr shorter

/-- A key that types makes the text after it, if it has an effect. -/
theorem typed?_eq (text : String) (key : Key) (types : key.code.types = true) :
    typed? text key.code =
      if key.acts text.toList then some (String.ofList (key.edit text.toList)) else none := by
  obtain ⟨code, modifiers⟩ := key
  cases code with
  | char letter =>
    have appended : text.push letter = String.ofList (text.toList ++ [letter]) := by
      apply String.toList_injective
      rw [String.toList_push, String.toList_ofList]
    rw [if_pos (acts_char text.toList letter modifiers)]
    exact congrArg some appended
  | backspace =>
    by_cases empty : text = ""
    · subst empty
      rfl
    · rw [if_pos (acts_backspace _ modifiers (mt String.toList_eq_nil_iff.mp empty))]
      exact if_neg (by simpa using empty)
  | _ => contradiction

end Key

end App

/-! ## Operations that nobody is told of -/

namespace Selector

/-- An edit whose focus is in the input. -/
def Mode.focus : Mode → Mode
  | .reading => .reading
  | .editing _ results => .editing .focused results

/-- Taking the focus to the input neither starts nor ends an edit. -/
theorem Mode.focus_editing (mode : Mode) : mode.focus.isEditing = mode.isEditing := by
  cases mode <;> rfl

/-- An edit whose focus is in the input keeps it there. -/
theorem Mode.focus_focused (mode : Mode) (focused : mode.isFocused = true) :
    mode.focus = mode := by
  cases mode with
  | reading => rfl
  | editing input results =>
    cases input with
    | focused => rfl
    | unfocused => contradiction

namespace Session

/-- The session after its text was typed. -/
def retyped (session : Session) (text : String) : Session :=
  ⟨session.mode.focus, session.context.retype text⟩

/-- The last text that is typed decides. -/
theorem retyped_retyped (session : Session) (first last : String) :
    (session.retyped first).retyped last = session.retyped last := by
  obtain ⟨mode, context⟩ := session
  cases mode <;> rfl

/-- A session whose text was typed in an edit has the context that a change to the text gives, and
the focus is in its input. -/
theorem retyped_change (session : Session) (text : String) (fresh : ErrorId)
    (editing : session.mode.isEditing = true) :
    (session.retyped text).context = (session.send (.change text) fresh).session.context ∧
      (session.retyped text).mode.isFocused = true ∧
      (session.retyped text).mode.isHovering = session.mode.isHovering := by
  obtain ⟨mode, context⟩ := session
  cases mode with
  | reading => contradiction
  | editing input results => cases results <;> exact ⟨rfl, rfl, rfl⟩

/-- Typing a text in an edit takes the focus to the input and changes the text, and nobody is told
of it. -/
theorem perform_typeText (session : Session) (text : String) (fresh : ErrorId)
    (editing : session.mode.isEditing = true) :
    (session.perform (.typeText text) fresh).Silent (session.retyped text) fresh := by
  obtain ⟨mode, context⟩ := session
  cases mode with
  | reading => contradiction
  | editing input results => cases input <;> cases results <;> exact ⟨rfl, rfl, rfl, rfl⟩

end Session

end Selector

namespace App

/-- The application with another session in its header. -/
def withSession (app : App) (session : Selector.Session) : App :=
  { app with header := { app.header with session } }

/-- An operation that goes on with an edit and that nobody is told of changes the session and
nothing else, and asks to draw. -/
theorem operate_silent (app : App) (operation : Selector.Operation) (session : Selector.Session)
    (feed : operation.isFeed = false)
    (silent : (app.header.session.perform operation app.fresh).Silent session app.fresh)
    (editing : session.mode.isEditing = true) :
    (operate app operation).app = app.withSession session ∧
      (operate app operation).effects = [.render] := by
  have still : isEditing (operate app operation).app = true := by
    change (app.header.session.perform operation app.fresh).session.mode.isEditing = true
    rw [silent.session]
    exact editing
  have backend : (app.header.perform operation app.fresh).header.backend =
      app.header.backend := by
    rw [Header.perform_backend, silent.told]
    rfl
  obtain ⟨shown, effects⟩ :
      (app.header.perform operation app.fresh).header.visibleError = app.header.visibleError ∧
        (operate app operation).effects = [.render] := by
    cases operate_rejection app operation feed with
    | leaves unused shown kept effects => exact ⟨shown, effects⟩
    | ends unused hidden ended effects =>
      rw [ended] at still
      contradiction
    | refuses error issued used shown editing marked effects =>
      exact absurd (silent.unused.symm.trans used) app.fresh.ne_next
  refine ⟨?_, effects⟩
  change { app with
    header := { app.header with
      session := (app.header.session.perform operation app.fresh).session
      backend := (app.header.perform operation app.fresh).header.backend
      visibleError := (app.header.perform operation app.fresh).header.visibleError }
    fresh := (app.header.session.perform operation app.fresh).fresh } = _
  rw [backend, shown, silent.session, silent.unused]
  rfl

/-- In an edit a key that types changes the text if it has an effect, and does nothing else. -/
theorem inputKey_types (app : App) (key : Key) (editing : isEditing app = true)
    (types : key.types = true) :
    let text := app.header.session.context.value.toList
    inputKey app key =
      if key.acts text then operate app (.typeText (String.ofList (key.edit text)))
      else unchanged app := by
  intro text
  simp only [Key.types, Bool.and_eq_true, Bool.not_eq_true'] at types
  obtain ⟨⟨control, alt⟩, letters⟩ := types
  have free : (key.modifiers.control || key.modifiers.alt) = false := by
    rw [control, alt]
    rfl
  rw [inputKey, free, if_neg Bool.false_ne_true, if_pos editing, Key.typed?_eq _ key letters]
  by_cases acts : key.acts text = true
  · rw [if_pos acts, if_pos acts]
  · rw [if_neg acts, if_neg acts]

end App

/-! ## Typing in an engine -/

namespace Engine

/-- The engine after a text was typed in its edit and drawn. -/
def retyped (engine : Engine) (text : String) (layout : Layout) : Engine :=
  { engine with
    app := { engine.app.withSession (engine.app.header.session.retyped text) with layout } }

/-- The last text that is typed decides. -/
theorem retyped_retyped (engine : Engine) (first last : String) (before after : Layout) :
    (engine.retyped first before).retyped last after = engine.retyped last after := by
  simp only [retyped, App.withSession, Selector.Session.retyped_retyped]

/-- What is edited is still edited after a text was typed. -/
theorem retyped_editing (engine : Engine) (text : String) (layout : Layout)
    (editing : App.isEditing engine.app = true) :
    App.isEditing (engine.retyped text layout).app = true := by
  change engine.app.header.session.mode.focus.isEditing = true
  rw [Selector.Mode.focus_editing]
  exact editing

/-- A key that types changes the text if it has an effect, and else does nothing at all. -/
theorem process_typing (engine : Engine) (key : App.Key)
    (editing : App.isEditing engine.app = true) (types : key.types = true) :
    let text := engine.app.header.session.context.value.toList
    let processed := engine.process (.inputKey key)
    (key.acts text = true → processed.effects = [.render] ∧
        ∃ layout, processed.engine = engine.retyped (String.ofList (key.edit text)) layout) ∧
      (key.acts text = false → processed.effects = [] ∧ processed.engine = engine) := by
  intro text processed
  have reduced : App.reduce engine.app (.inputKey key) =
      if key.acts text then App.operate engine.app (.typeText (String.ofList (key.edit text)))
      else App.unchanged engine.app := engine.app.inputKey_types key editing types
  constructor
  · intro acts
    rw [if_pos acts] at reduced
    have silent := engine.app.header.session.perform_typeText
      (String.ofList (key.edit text)) engine.app.fresh editing
    obtain ⟨changed, drawn⟩ := engine.app.operate_silent _ _ rfl silent
      (engine.retyped_editing _ engine.app.layout editing)
    obtain ⟨layout, after⟩ := process_engine engine (.inputKey key)
    rw [reduced, changed, drawn] at after
    exact ⟨(congrArg App.Reduction.effects reduced).trans drawn, layout, after⟩
  · intro idle
    rw [if_neg (ne_true_of_eq_false idle)] at reduced
    have rested : processed = ⟨engine, .inputKey key, [], none, []⟩ := by
      simp only [processed, process, reduced]
      rfl
    rw [rested]
    exact ⟨rfl, rfl⟩

/-- Keys that type come to one change of the text, if one of them has an effect, and else to
nothing at all. They ask to draw and for nothing else. -/
theorem processAll_typing (engine : Engine) (keys : List App.Key)
    (editing : App.isEditing engine.app = true) (typing : ∀ key ∈ keys, key.types = true) :
    let text := engine.app.header.session.context.value.toList
    let run := engine.processAll (keys.map .inputKey)
    (App.Key.anyActs text keys = true →
        ∃ layout, run.1 = engine.retyped (String.ofList (App.Key.editAll text keys)) layout) ∧
      (App.Key.anyActs text keys = false → run.1 = engine) ∧
      ∀ processed ∈ run.2, ∀ effect ∈ processed.effects, effect = .render := by
  induction keys generalizing engine with
  | nil =>
    refine ⟨fun acts => absurd acts Bool.false_ne_true, fun _ => rfl, ?_⟩
    intro processed absent
    exact absurd absent List.not_mem_nil
  | cons key rest ih =>
    intro text run
    have others : ∀ key ∈ rest, key.types = true :=
      fun other later => typing other (List.mem_cons_of_mem key later)
    have first := engine.process_typing key editing (typing key List.mem_cons_self)
    have ended : run.1 =
        ((engine.process (.inputKey key)).engine.processAll (rest.map .inputKey)).1 := rfl
    have steps : run.2 = engine.process (.inputKey key) ::
        ((engine.process (.inputKey key)).engine.processAll (rest.map .inputKey)).2 := rfl
    rw [ended, steps, List.forall_mem_cons, App.Key.anyActs]
    cases acts : key.acts text with
    | false =>
      obtain ⟨quiet, same⟩ := first.2 acts
      obtain ⟨changes, rests, draws⟩ := ih engine editing others
      rw [same, quiet, App.Key.editAll, List.foldl_cons, key.edit_of_idle text acts, Bool.false_or]
      exact ⟨changes, rests, nofun, draws⟩
    | true =>
      obtain ⟨drawn, layout, changed⟩ := first.1 acts
      let typed := engine.retyped (String.ofList (key.edit text)) layout
      have shown : typed.app.header.session.context.value.toList = key.edit text :=
        String.toList_ofList
      obtain ⟨changes, rests, draws⟩ := ih typed (engine.retyped_editing _ _ editing) others
      rw [shown] at changes rests
      rw [changed, drawn, App.Key.editAll, List.foldl_cons]
      refine ⟨fun _ => ?_, nofun, fun _ => List.mem_singleton.mp, draws⟩
      -- If no later key has an effect, then the text that this one made is the last.
      cases later : App.Key.anyActs (key.edit text) rest with
      | true =>
        obtain ⟨final, last⟩ := changes later
        exact ⟨final, last.trans (engine.retyped_retyped _ _ _ _)⟩
      | false =>
        have settled : rest.foldl App.Key.edit (key.edit text) = key.edit text :=
          App.Key.editAll_of_idle _ _ later
        exact ⟨layout, by rw [rests later, settled]⟩

/-- Typing key by key comes to one change. The keys append characters to the text that is shown,
and each Backspace drops the last one if there is one. If any of them has an effect, then the
context is the one that a single change to the text they make gives, the focus is in the input,
and the results are hovered over as before. Else the engine is the same. The server is told
nothing, the rejection that is shown stays, no timer is touched, and only drawing is asked for. -/
theorem typing_is_one_change (engine : Engine) (keys : List App.Key)
    (editing : App.isEditing engine.app = true) (typing : ∀ key ∈ keys, key.types = true) :
    let session := engine.app.header.session
    let text := session.context.value.toList
    let run := engine.processAll (keys.map .inputKey)
    let after := run.1.app.header
    (App.Key.anyActs text keys = true →
      after.session.context = (session.send
          (.change (String.ofList (App.Key.editAll text keys))) engine.app.fresh).session.context ∧
        after.session.mode.isFocused = true ∧
        after.session.mode.isHovering = session.mode.isHovering) ∧
    (App.Key.anyActs text keys = false → run.1 = engine) ∧
    after.backend = engine.app.header.backend ∧
    after.visibleError = engine.app.header.visibleError ∧
    run.1.schedule = engine.schedule ∧
    ∀ processed ∈ run.2, ∀ effect ∈ processed.effects, effect = .render := by
  intro session text run after
  obtain ⟨changes, rests, draws⟩ := engine.processAll_typing keys editing typing
  obtain ⟨typed, layout, same⟩ : ∃ typed layout,
      run.1 = { engine with app := { engine.app.withSession typed with layout } } := by
    cases acts : App.Key.anyActs text keys with
    | true => exact ⟨_, changes acts⟩
    | false => exact ⟨session, engine.app.layout, rests acts⟩
  refine ⟨fun acts => ?_, rests, ?_, ?_, ?_, draws⟩
  · obtain ⟨drawn, changed⟩ := changes acts
    have edited : after.session = session.retyped (String.ofList (App.Key.editAll text keys)) :=
      congrArg (·.app.header.session) changed
    rw [edited]
    exact session.retyped_change _ engine.app.fresh editing
  · exact congrArg (·.app.header.backend) same
  · exact congrArg (·.app.header.visibleError) same
  · exact congrArg (·.schedule) same

/-- The second result is erased, with one Backspace too many, and another text is typed. -/
theorem typing_is_one_change_erased :
    let names := ["alpha", "aé", "beta"]
    let header := (Header.start {} "alpha" names { kind := .writer } .first).header
    let engine := (({ app := App.start header {} (.fixed {}) 3000 .first } : Engine).processAll
      [.edit, .nextResult, .nextResult]).1
    let keys : List App.Key :=
      [⟨.backspace, {}⟩, ⟨.backspace, {}⟩, ⟨.backspace, {}⟩, ⟨.char 'b', {}⟩]
    let after := (engine.processAll (keys.map .inputKey)).1.app.header.session
    engine.app.header.session.context.value = "aé" ∧
      after.context =
        (engine.app.header.session.send (.change "b") engine.app.fresh).session.context ∧
      after.context.completion = some ⟨"beta", "eta"⟩ := by
  intro names header engine keys after
  have editing : App.isEditing engine.app = true := by decide +kernel
  have typing : ∀ key ∈ keys, key.types = true := by decide
  have acts : App.Key.anyActs engine.app.header.session.context.value.toList keys = true := by
    decide +kernel
  have made : String.ofList (App.Key.editAll engine.app.header.session.context.value.toList keys) =
      "b" := by decide +kernel
  obtain ⟨changed, -, -⟩ := (engine.typing_is_one_change keys editing typing).1 acts
  rw [made] at changed
  exact ⟨by decide +kernel, changed, by decide +kernel⟩

end Engine
end DatasetPicker
