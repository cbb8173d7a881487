import DatasetPicker.Proofs.App.Dialogue
import DatasetPicker.Proofs.App.Rejection
import DatasetPicker.Proofs.Selector.Renumber

/-!
# Backends make no difference

What becomes of a message is listed in the journal and nowhere else. So an application does and
shows the same on any backend, step by step, whether messages arrive or are lost. Rejections may
have other ids, but as numbered by their appearance they are the same.
-/

namespace DatasetPicker

open Selector (CommitError ErrorId Operation Session)

/-! ## Headers -/

namespace Header

variable (ids : ErrorId → ErrorId) (header : Header) (backend : Backend)

/-- The same header elsewhere: on another backend, and with other ids for its rejections. -/
def transplant : Header :=
  { header with
    session := header.session.renumber ids
    backend
    visibleError := header.visibleError.map (CommitError.renumber ids) }

/-- Which rejection is shown does not depend on the ids. -/
theorem shown_renumber (before : Option CommitError) (effects : List Selector.Effect) :
    shown (before.map (CommitError.renumber ids)) (effects.map (Selector.Effect.renumber ids)) =
      (shown before effects).map (CommitError.renumber ids) := by
  induction effects generalizing before with
  | nil => rfl
  | cons effect rest ih =>
    cases effect with
    | committed value => exact ih before
    | rejected error => exact ih (some error)

/-- The other outcome is the same elsewhere. -/
structure Outcome.Recurs (fresh : ErrorId) (outcome other : Outcome) : Prop where
  header : ∃ backend, other.header = outcome.header.transplant ids backend
  effects : other.effects = outcome.effects.map (Selector.Effect.renumber ids)
  used : other.fresh = ids fresh ↔ outcome.fresh = fresh

/-- An operation has the same outcome elsewhere. -/
theorem perform_transplant (operation : Operation) (fresh : ErrorId) :
    (header.perform operation fresh).Recurs ids fresh
      ((header.transplant ids backend).perform operation (ids fresh)) := by
  have same : (header.session.perform operation fresh).Renumbers ids fresh
      ((header.transplant ids backend).session.perform operation (ids fresh)) :=
    header.session.perform_renumber ids fresh operation
  refine ⟨⟨((header.transplant ids backend).perform operation (ids fresh)).header.backend, ?_⟩,
    same.effects, same.used⟩
  have visible : shown (header.transplant ids backend).visibleError
      ((header.transplant ids backend).session.perform operation (ids fresh)).effects =
      (shown header.visibleError (header.session.perform operation fresh).effects).map
        (CommitError.renumber ids) := by
    rw [← shown_renumber, ← same.effects]
    rfl
  simp only [perform, absorb, visible, same.session]
  simp only [transplant, Session.renumber, apply_ite (Option.map _), Option.map_none]
  rfl

/-- A click on the logo does the same elsewhere. -/
theorem activateLogo_transplant : ∃ backend',
    (header.transplant ids backend).activateLogo.1 = header.activateLogo.1.transplant ids backend' :=
  ⟨_, rfl⟩

variable {ids}

/-- An expiry finds its rejection elsewhere, too. -/
theorem expireError_transplant (injective : Function.Injective ids) (id : ErrorId) :
    (header.transplant ids backend).expireError (ids id) =
      ((header.expireError id).1.transplant ids backend, (header.expireError id).2) := by
  obtain ⟨branding, session, former, refreshing, visibleError⟩ := header
  cases visibleError with
  | none => rfl
  | some error =>
    by_cases named : error.id = id
    · simp [expireError, transplant, CommitError.renumber, named]
    · have other : ids error.id ≠ ids id := injective.ne named
      simp [expireError, transplant, CommitError.renumber, named, other]

end Header

/-- A header looks the same elsewhere. -/
theorem View.render_transplant (ids : ErrorId → ErrorId) (header : Header) (backend : Backend)
    (palette : Palette) : render (header.transplant ids backend) palette = render header palette := by
  obtain ⟨branding, session, former, refreshing, visibleError⟩ := header
  cases visibleError <;> rfl

namespace App

open Selector (Event)

variable (ids : ErrorId → ErrorId)

/-! ## Commands -/

/-- The command with another id for a rejection. -/
def Command.renumber : Command → Command
  | .expireError id => .expireError (ids id)
  | command => command

/-- The effect with another id for a rejection. -/
def Effect.renumber : Effect → Effect
  | .debounce key delay command => .debounce key delay (command.renumber ids)
  | effect => effect

/-- The same application elsewhere: on another backend, with other ids for its rejections, and
with an id of its own for the next one. -/
def transplant (app : App) (backend : Backend) (fresh : ErrorId) : App :=
  { app with header := app.header.transplant ids backend, fresh }

/-- The other reduction is the same elsewhere. It uses up an id if the reduction does. -/
structure Reduction.Recurs (fresh : ErrorId) (reduction other : Reduction) : Prop where
  app : ∃ backend next, other.app = reduction.app.transplant ids backend next
  effects : other.effects = reduction.effects.map (Effect.renumber ids)
  used : other.app.fresh = ids fresh ↔ reduction.app.fresh = fresh

/-- The timers of rejections are armed elsewhere, too. -/
theorem timers_renumber (delay : Nat) (effects : List Selector.Effect) :
    timers delay (effects.map (Selector.Effect.renumber ids)) =
      (timers delay effects).map (Effect.renumber ids) := by
  induction effects with
  | nil => rfl
  | cons effect rest ih =>
    cases effect with
    | committed value => exact ih
    | rejected error => exact congrArg (List.cons _) ih

variable (app : App) (backend : Backend)

/-- A command that changes nothing changes nothing elsewhere. -/
theorem unchanged_transplant : (unchanged app).Recurs ids app.fresh
    (unchanged (app.transplant ids backend (ids app.fresh))) :=
  ⟨⟨_, _, rfl⟩, rfl, iff_of_true rfl rfl⟩

/-- What is shown has another id elsewhere. -/
theorem shown_transplant (fresh : ErrorId) : (app.transplant ids backend fresh).shown =
    app.shown.map (CommitError.renumber ids) := rfl

/-- An operation of the selector comes to the same elsewhere. -/
theorem operate_transplant (operation : Operation) : (operate app operation).Recurs ids app.fresh
    (operate (app.transplant ids backend (ids app.fresh)) operation) := by
  have same : (app.header.perform operation app.fresh).Recurs ids app.fresh
      ((app.transplant ids backend (ids app.fresh)).header.perform operation
        (app.transplant ids backend (ids app.fresh)).fresh) :=
    app.header.perform_transplant ids backend operation app.fresh
  obtain ⟨backend', header⟩ := same.header
  have after : ∃ next, (operate (app.transplant ids backend (ids app.fresh)) operation).app =
      (operate app operation).app.transplant ids backend' next :=
    ⟨_, by simp only [operate, withOutcome, header]; rfl⟩
  obtain ⟨next, after⟩ := after
  refine ⟨⟨backend', next, after⟩, ?_, same.used⟩
  rw [operate_effects, operate_effects, after, shown_transplant, shown_transplant,
    Option.isSome_map, Option.isNone_map, same.effects]
  change _ :: timers app.errorTimeout _ ++ _ = _
  rw [timers_renumber, List.map_append, List.map_cons, apply_ite (List.map _)]
  rfl

/-- Fetching the configuration does the same elsewhere. -/
theorem reload_transplant (fresh : ErrorId) :
    (app.transplant ids backend fresh).reload.1 = app.reload.1.transplant ids backend fresh := by
  cases changed : (app.store.loadOrKeep app.source.fetch.1).2.1 with
  | true =>
    simp only [reload, transplant, changed]
    rfl
  | false =>
    simp only [reload, transplant, changed]
    rfl

/-- A refresh comes to the same elsewhere. -/
theorem refresh_transplant : (refresh app).Recurs ids app.fresh
    (refresh (app.transplant ids backend (ids app.fresh))) := by
  obtain ⟨backend', clicked⟩ := app.header.activateLogo_transplant ids backend
  have after : (refresh (app.transplant ids backend (ids app.fresh))).app =
      (refresh app).app.transplant ids backend' (ids app.fresh) := by
    refine Eq.trans ?_ (reload_transplant ids { app with header := app.header.activateLogo.1 } _ _)
    simp only [refresh, transplant, clicked]
  refine ⟨⟨backend', _, after⟩, rfl, ?_⟩
  obtain ⟨store, source, palette, changed⟩ := refresh_changes app
  rw [after, changed]
  exact iff_of_true rfl rfl

/-- Drawing does the same elsewhere. -/
theorem view_transplant (fresh : ErrorId) :
    (app.transplant ids backend fresh).view.1 = app.view.1.transplant ids backend fresh := by
  simp only [view, currentView, transplant, View.render_transplant]

/-- Leaving does the same elsewhere. -/
theorem exit_transplant : Reduction.Recurs ids app.fresh { app := { app with exiting := true } }
    { app := { app.transplant ids backend (ids app.fresh) with exiting := true } } :=
  ⟨⟨_, _, rfl⟩, rfl, iff_of_true rfl rfl⟩

/-- Whether a name is edited is the same elsewhere. -/
theorem isEditing_transplant (fresh : ErrorId) :
    isEditing (app.transplant ids backend fresh) = isEditing app := rfl

/-- A key that is not bound does the same elsewhere. -/
theorem inputKey_transplant (key : Key) : (inputKey app key).Recurs ids app.fresh
    (inputKey (app.transplant ids backend (ids app.fresh)) key) := by
  have value : (app.transplant ids backend (ids app.fresh)).header.session.context.value =
      app.header.session.context.value := rfl
  simp only [inputKey, isEditing_transplant, value]
  split
  · exact unchanged_transplant ids app backend
  · split
    · split
      · exact operate_transplant ids app backend _
      · exact unchanged_transplant ids app backend
    · split
      · exact operate_transplant ids app backend _
      · split
        · exact exit_transplant ids app backend
        · exact unchanged_transplant ids app backend

/-- A pointer that moves does the same elsewhere. -/
theorem pointerMoved_transplant (row : Nat) : (pointerMoved app row).Recurs ids app.fresh
    (pointerMoved (app.transplant ids backend (ids app.fresh)) row) := by
  have layout : (app.transplant ids backend (ids app.fresh)).layout = app.layout := rfl
  have mode : (app.transplant ids backend (ids app.fresh)).header.session.mode =
      app.header.session.mode := rfl
  simp only [pointerMoved, isEditing_transplant, layout, mode]
  split
  · split
    · exact operate_transplant ids app backend _
    · exact operate_transplant ids app backend _
    · exact unchanged_transplant ids app backend
  · exact unchanged_transplant ids app backend

/-- A click does the same elsewhere. -/
theorem click_transplant (column row : Nat) : (click app column row).Recurs ids app.fresh
    (click (app.transplant ids backend (ids app.fresh)) column row) := by
  have layout : (app.transplant ids backend (ids app.fresh)).layout = app.layout := rfl
  have same := isEditing_transplant ids app backend (ids app.fresh)
  cases editing : isEditing app with
  | true =>
    rw [editing] at same
    simp only [click, editing, same, layout, ↓reduceIte]
    split
    · exact refresh_transplant ids app backend
    · split
      · exact operate_transplant ids app backend _
      · split
        · exact operate_transplant ids app backend _
        · exact operate_transplant ids app backend _
  | false =>
    rw [editing] at same
    simp only [click, editing, same, layout, Bool.false_eq_true, ↓reduceIte]
    split
    · exact refresh_transplant ids app backend
    · split
      · exact operate_transplant ids app backend _
      · exact unchanged_transplant ids app backend

variable {ids}

/-- Every command does the same elsewhere. -/
theorem reduce_transplant (injective : Function.Injective ids) (command : Command) :
    (reduce app command).Recurs ids app.fresh
      (reduce (app.transplant ids backend (ids app.fresh)) (command.renumber ids)) := by
  cases command with
  | exit => exact exit_transplant ids app backend
  | refresh => exact refresh_transplant ids app backend
  | edit => exact operate_transplant ids app backend _
  | blur => exact operate_transplant ids app backend _
  | commit =>
    have same := isEditing_transplant ids app backend (ids app.fresh)
    cases editing : isEditing app with
    | true =>
      rw [editing] at same
      simp only [reduce, Command.renumber, editing, same, ↓reduceIte]
      exact operate_transplant ids app backend _
    | false =>
      rw [editing] at same
      simp only [reduce, Command.renumber, editing, same, Bool.false_eq_true, ↓reduceIte]
      exact operate_transplant ids app backend _
  | nextResult => exact operate_transplant ids app backend _
  | previousResult => exact operate_transplant ids app backend _
  | acceptCompletion => exact operate_transplant ids app backend _
  | clearInput => exact operate_transplant ids app backend _
  | inputKey key => exact inputKey_transplant ids app backend key
  | pointer pointer =>
    obtain ⟨kind, column, row⟩ := pointer
    cases kind with
    | moved => exact pointerMoved_transplant ids app backend row
    | click => exact click_transplant ids app backend column row
  | expireError id =>
    have found : (app.transplant ids backend (ids app.fresh)).header.expireError (ids id) = _ :=
      app.header.expireError_transplant backend injective id
    simp only [reduce, Command.renumber, found]
    refine ⟨⟨_, _, rfl⟩, ?_, iff_of_true rfl rfl⟩
    rw [apply_ite (List.map _)]
    rfl
  | tick => exact unchanged_transplant ids app backend

/-! ## Steps -/

/-- The step with another id for a rejection. -/
def Step.renumber (ids : ErrorId → ErrorId) : Step → Step
  | .command asked => .command (asked.renumber ids)
  | step => step

/-- The application after a step, and the effects of the step. Whoever runs an application may ask
for its view at any time; that a command asks for one shows in its effects. -/
def act (app : App) : Step → Reduction
  | .command command => reduce app command
  | .feed feed => { app := (app.setDatasets feed.active feed.datasets).1 }
  | .view => { app := app.view.1 }

/-- A step does the same elsewhere. -/
theorem act_transplant (injective : Function.Injective ids) (step : Step) :
    (act app step).Recurs ids app.fresh
      (act (app.transplant ids backend (ids app.fresh)) (step.renumber ids)) := by
  cases step with
  | command command => exact reduce_transplant app backend injective command
  | feed feed =>
    have same : (app.header.setDatasets feed.active feed.datasets app.fresh).Recurs ids app.fresh
        ((app.transplant ids backend (ids app.fresh)).header.setDatasets feed.active feed.datasets
          (app.transplant ids backend (ids app.fresh)).fresh) :=
      app.header.perform_transplant ids backend _ app.fresh
    obtain ⟨backend', header⟩ := same.header
    have after : ∃ next,
        ((app.transplant ids backend (ids app.fresh)).setDatasets feed.active feed.datasets).1 =
          (app.setDatasets feed.active feed.datasets).1.transplant ids backend' next :=
      ⟨_, by simp only [setDatasets, withOutcome, header]; rfl⟩
    exact ⟨⟨backend', after⟩, rfl, same.used⟩
  | view => exact ⟨⟨backend, _, view_transplant ids app backend _⟩, rfl, iff_of_true rfl rfl⟩

/-! ## Observations -/

/-- What is seen of an application after a step: the effects of the step, the selector, what is
shown beside it, and the view. -/
structure Observation where
  effects : List Effect
  session : Session
  visibleError : Option CommitError
  refreshing : Bool
  exiting : Bool
  view : View

/-- The observation with other ids for the rejections. -/
def Observation.renumber (ids : ErrorId → ErrorId) (observation : Observation) : Observation :=
  { observation with
    effects := observation.effects.map (Effect.renumber ids)
    session := observation.session.renumber ids
    visibleError := observation.visibleError.map (CommitError.renumber ids) }

/-- What is seen after a reduction. -/
def Reduction.observed (reduction : Reduction) : Observation :=
  { effects := reduction.effects
    session := reduction.app.header.session
    visibleError := reduction.app.header.visibleError
    refreshing := reduction.app.header.refreshing
    exiting := reduction.app.exiting
    view := reduction.app.currentView }

/-- Elsewhere the same is seen. -/
theorem observed_transplant {reduction other : Reduction}
    (app : ∃ backend next, other.app = reduction.app.transplant ids backend next)
    (effects : other.effects = reduction.effects.map (Effect.renumber ids)) :
    other.observed = reduction.observed.renumber ids := by
  obtain ⟨backend, next, after⟩ := app
  have view : (reduction.app.transplant ids backend next).currentView =
      reduction.app.currentView := View.render_transplant ids _ backend _
  simp only [Reduction.observed, Observation.renumber, effects, after, view]
  rfl

/-- What is seen of an application along some steps. The number is that of its next rejection by
appearance. The ids are those that the rejections get in turn, and a step that names a rejection
by its number is given its id. -/
def history (ids : ErrorId → ErrorId) (app : App) (number : ErrorId) :
    List Step → List Observation
  | [] => []
  | step :: rest =>
    let reduction := act { app with fresh := ids number } (step.renumber ids)
    let used := reduction.app.fresh ≠ ids number
    reduction.observed :: history ids reduction.app (if used then number.next else number) rest

/-- With the numbers themselves as ids a step is as it was. -/
theorem Step.renumber_id (step : Step) : step.renumber id = step := by
  cases step with
  | command asked => cases asked <;> rfl
  | feed feed => rfl
  | view => rfl

/-- Elsewhere the same is seen along the same steps. -/
theorem history_transplant (injective : Function.Injective ids) (fresh number : ErrorId)
    (steps : List Step) :
    history ids (app.transplant ids backend fresh) number steps =
      (history id app number steps).map (Observation.renumber ids) := by
  induction steps generalizing app backend fresh number with
  | nil => rfl
  | cons step rest ih =>
    have recurs := act_transplant { app with fresh := number } backend injective step
    obtain ⟨backend', next, after⟩ := recurs.app
    have here : { app.transplant ids backend fresh with fresh := ids number } =
        transplant ids { app with fresh := number } backend (ids number) := rfl
    simp only [history, here, List.map_cons, Step.renumber_id, id]
    rw [observed_transplant recurs.app recurs.effects, ← ih _ backend' next, ← after]
    simp only [ne_eq, recurs.used]

/-- An application on a new header. -/
def launch (branding : Branding) (feed : Feed) (store : Config.Store) (source : Config.Source)
    (errorTimeout : Nat) (backend : Backend) : App :=
  start (Header.start branding feed.active feed.datasets backend .first).header store source
    errorTimeout .first

/-- New applications that are equal but for the backend are the same elsewhere. -/
theorem launch_transplant (ids : ErrorId → ErrorId) (branding : Branding) (feed : Feed)
    (store : Config.Store) (source : Config.Source) (errorTimeout : Nat)
    (former backend : Backend) : ∃ backend',
      launch branding feed store source errorTimeout backend =
        (launch branding feed store source errorTimeout former).transplant ids backend' .first := by
  let blank : Header := { branding, session := ⟨.reading, {}⟩, backend := former }
  have same := blank.perform_transplant ids backend
    (.send (.setValues feed.active feed.datasets (some .server))) .first
  obtain ⟨backend', started⟩ := same.header
  -- No rejection comes of a feed, so the id that is handed in does not matter.
  have header : (Header.start branding feed.active feed.datasets backend .first).header =
      (Header.start branding feed.active feed.datasets former .first).header.transplant ids
        backend' := started
  refine ⟨backend', ?_⟩
  rw [launch, header]
  exact view_transplant ids
    { header := _, store, source, errorTimeout, palette := _, fresh := .first } backend' .first

/-- There is one history of an application, whatever its backend and whatever becomes of the
messages: any run of it along the same steps, from its first view on, shows this history under
the ids that the rejections get in turn. So two runs differ in these ids only. -/
theorem history_any_backend (branding : Branding) (feed : Feed) (store : Config.Store)
    (source : Config.Source) (errorTimeout : Nat) (steps : List Step) :
    ∃ seen : List Observation, ∀ (backend : Backend) (ids : ErrorId → ErrorId),
      Function.Injective ids →
        let app := launch branding feed store source errorTimeout backend
        ({ app } : Reduction).observed :: history ids app .first steps =
          seen.map (Observation.renumber ids) := by
  let former := launch branding feed store source errorTimeout { kind := .journal }
  refine ⟨({ app := former } : Reduction).observed :: history id former .first steps, ?_⟩
  intro backend ids injective app
  obtain ⟨backend', same⟩ : ∃ backend', app = former.transplant ids backend' .first :=
    launch_transplant ids branding feed store source errorTimeout _ backend
  have first : ({ app } : Reduction).observed =
      ({ app := former } : Reduction).observed.renumber ids :=
    observed_transplant ⟨backend', .first, same⟩ rfl
  rw [first, same, history_transplant former backend' injective]
  rfl

/-- A refused commit that expires, a commit that cannot be delivered, a refresh and a new feed: with
a writer that fails and even ids the history is the one with a channel and odd ids. -/
theorem history_any_backend_broken :
    let evens : ErrorId → ErrorId := fun id => ⟨2 * id.number⟩
    let odds : ErrorId → ErrorId := fun id => ⟨2 * id.number + 1⟩
    let steps : List Step :=
      [.command .edit, .command (.inputKey ⟨.char 'x', {}⟩), .command .commit, .view,
        .command (.expireError .first), .command .clearInput, .command .nextResult,
        .command .commit, .command .refresh, .feed ⟨"beta", ["beta", "gamma"]⟩, .view]
    let run (kind : Backend.Kind) (ids : ErrorId → ErrorId) : List Observation :=
      let app := launch {} ⟨"", ["alpha", "beta"]⟩ {} (.fixed {}) 4000 { kind }
      ({ app } : Reduction).observed :: history ids app .first steps
    Function.Injective evens ∧ Function.Injective odds ∧
      ∃ seen : List Observation,
        run .broken evens = seen.map (Observation.renumber evens) ∧
          run .channel odds = seen.map (Observation.renumber odds) := by
  intro evens odds steps run
  have evensInjective : Function.Injective evens := by
    rintro ⟨left⟩ ⟨right⟩ same
    simp only [evens, ErrorId.mk.injEq] at same ⊢
    omega
  have oddsInjective : Function.Injective odds := by
    rintro ⟨left⟩ ⟨right⟩ same
    simp only [odds, ErrorId.mk.injEq] at same ⊢
    omega
  obtain ⟨seen, always⟩ :=
    history_any_backend {} ⟨"", ["alpha", "beta"]⟩ {} (.fixed {}) 4000 steps
  exact ⟨evensInjective, oddsInjective, seen, always { kind := .broken } evens evensInjective,
    always { kind := .channel } odds oddsInjective⟩

end App

end DatasetPicker
