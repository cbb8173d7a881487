import DatasetPicker.Proofs.Header.Reached
import DatasetPicker.Proofs.Selector.Signs

/-!
# Headers side by side

Any number of headers take the ids of their rejections from one supply. What is done to them is
logged: the log of a header decides which of its rejections is shown, and so which expiry hides
it. An expiry that comes too late, twice or to another header changes nothing.
-/

namespace DatasetPicker

open Selector (CommitError ErrorId Operation Session Sign Latest Numbered)

namespace Header

/-- What can be done to a header. -/
inductive Deed where
  /-- An operation of the selector, among them feeds with any listener. -/
  | perform (operation : Operation)
  | setDatasets (active : String) (datasets : List String)
  | activateLogo
  | expire (id : ErrorId)
  deriving DecidableEq, Repr

/-- A header after a deed. -/
structure Done where
  header : Header
  /-- The id for the next rejection. -/
  fresh : ErrorId
  /-- What became of the rejections of the header. -/
  signs : List Sign := []

/-- Does something to a header. -/
def act (header : Header) (fresh : ErrorId) : Deed → Done
  | .perform operation =>
    let outcome := header.perform operation fresh
    { header := outcome.header
      fresh := outcome.fresh
      signs := header.session.signs fresh (header.session.events operation) }
  | .setDatasets active datasets =>
    let outcome := header.setDatasets active datasets fresh
    { header := outcome.header
      fresh := outcome.fresh
      signs := header.session.signs fresh [.setValues active datasets (some .server)] }
  | .activateLogo => { header := header.activateLogo.1, fresh }
  | .expire id =>
    { header := (header.expireError id).1
      fresh
      signs := [.expired id] }

/-- Replacing the feed is one of the operations. -/
theorem act_setDatasets (header : Header) (fresh : ErrorId) (active : String)
    (datasets : List String) :
    header.act fresh (.setDatasets active datasets) =
      header.act fresh (.perform (.send (.setValues active datasets (some .server)))) := rfl

/-- A rejection is shown while something is edited only. -/
def Tidy (header : Header) : Prop :=
  header.session.mode = .reading → header.visibleError = none

/-- What is known of a header after a deed. -/
structure Done.Accounts (header : Header) (fresh : ErrorId) (done : Done) : Prop where
  /-- The rejections used up the next ids. -/
  numbered : Numbered fresh (done.signs.filterMap Sign.rejection?) done.fresh
  /-- The signs tell which rejection is shown. -/
  shown : done.header.visibleError.map CommitError.id =
    done.signs.foldl Sign.mark (header.visibleError.map CommitError.id)
  tidy : done.header.Tidy

/-- The rejection to show after some effects is the one that their signs show. -/
theorem shown_mark (before : Option CommitError) (effects : List Selector.Effect) :
    (shown before effects).map CommitError.id =
      (effects.filterMap Selector.Effect.sign?).foldl Sign.mark (before.map CommitError.id) := by
  induction effects generalizing before with
  | nil => rfl
  | cons effect rest ih =>
    cases effect with
    | committed value => exact ih before
    | rejected error => exact ih (some error)

/-- The signs of an operation account for what it shows. -/
theorem perform_accounts (header : Header) (operation : Operation) (fresh : ErrorId)
    (tidy : header.Tidy) : (header.act fresh (.perform operation)).Accounts header fresh := by
  have hidden : header.session.mode = .reading → header.visibleError.map CommitError.id = none :=
    fun reading => by rw [tidy reading]; rfl
  have marks := header.session.signs_mark fresh (header.session.events operation)
    (header.visibleError.map CommitError.id) (header.session.events_begin operation) hidden
  have after : (header.perform operation fresh).header.visibleError =
      if (header.session.perform operation fresh).session.mode.isEditing then
        shown header.visibleError (header.session.perform operation fresh).effects
      else none := rfl
  refine ⟨header.session.signs_numbered fresh _, ?_, ?_⟩
  · change (header.perform operation fresh).header.visibleError.map CommitError.id =
      (header.session.signs fresh (header.session.events operation)).foldl Sign.mark _
    rw [marks, after, apply_ite (Option.map CommitError.id), shown_mark]
    rfl
  · intro reading
    change (header.perform operation fresh).header.visibleError = none
    change (header.session.perform operation fresh).session.mode = .reading at reading
    rw [after, reading]
    rfl

/-- The sign of an expiry accounts for what it hides. -/
theorem expire_accounts (header : Header) (id : ErrorId) (fresh : ErrorId)
    (tidy : header.Tidy) : (header.act fresh (.expire id)).Accounts header fresh := by
  have after : (header.act fresh (.expire id)).header =
      { header with visibleError := header.visibleError.filter (·.id ≠ id) } :=
    header.expireError_header id
  refine ⟨.none_used fresh, ?_, ?_⟩
  · change _ = (header.visibleError.map CommitError.id).filter (· ≠ id)
    rw [after, Option.filter_map]
    rfl
  · intro reading
    rw [after] at reading ⊢
    change header.visibleError.filter _ = none
    rw [tidy reading]
    rfl

/-- Whatever is done to a header, its signs account for what it shows. -/
theorem act_accounts (header : Header) (fresh : ErrorId) (deed : Deed) (tidy : header.Tidy) :
    (header.act fresh deed).Accounts header fresh := by
  cases deed with
  | perform operation => exact header.perform_accounts operation fresh tidy
  | setDatasets active datasets =>
    rw [act_setDatasets]
    exact header.perform_accounts _ fresh tidy
  | activateLogo => exact ⟨.none_used fresh, rfl, tidy⟩
  | expire id => exact header.expire_accounts id fresh tidy

/-- Whatever is done to a header, its selector stays coherent. -/
theorem act_coherent (header : Header) (fresh : ErrorId) (deed : Deed)
    (coherent : header.session.Coherent) : (header.act fresh deed).header.session.Coherent := by
  cases deed with
  | perform operation => exact coherent.sendAll fresh _
  | setDatasets active datasets => exact header.setDatasets_coherent active datasets fresh
  | activateLogo => exact coherent
  | expire id =>
    change (header.expireError id).1.session.Coherent
    rw [expireError_header]
    exact coherent

/-- What a header is started on. -/
structure Opening where
  branding : Branding
  active : String
  datasets : List String
  backend : Backend

/-- A header that was started. No id is used up by that. -/
def Opening.header (opening : Opening) (fresh : ErrorId) : Header :=
  (start opening.branding opening.active opening.datasets opening.backend fresh).header

end Header

/-- Headers that share the supply of ids, with a log of what became of their rejections. A
header that is started later has not been touched until then. -/
structure Ensemble where
  headers : Nat → Header
  /-- The id for the next rejection. -/
  fresh : ErrorId
  log : List (Nat × Sign) := []

namespace Ensemble

open Header (Deed Opening)

/-- New headers, and the first id that they can use. -/
def start (openings : Nat → Opening) (first : ErrorId) : Ensemble :=
  { headers := fun place => (openings place).header first
    fresh := first }

/-- Does something to the header at a place. -/
def take (ensemble : Ensemble) (step : Nat × Deed) : Ensemble :=
  let done := (ensemble.headers step.1).act ensemble.fresh step.2
  { headers := fun place => if place = step.1 then done.header else ensemble.headers place
    fresh := done.fresh
    log := ensemble.log ++ done.signs.map (step.1, ·) }

/-- Does one thing after the other. -/
def follow (ensemble : Ensemble) (steps : List (Nat × Deed)) : Ensemble :=
  steps.foldl take ensemble

/-- The ids of all rejections, in the order of the rejections. -/
def rejections (ensemble : Ensemble) : List ErrorId :=
  ensemble.log.filterMap (·.2.rejection?)

/-- What became of the rejections of the header at a place. -/
def history (ensemble : Ensemble) (place : Nat) : List Sign :=
  ensemble.log.filterMap fun entry => if entry.1 = place then some entry.2 else none

variable {ensemble : Ensemble} {first : ErrorId}

/-- What is known of headers side by side. -/
structure Orderly (ensemble : Ensemble) (first : ErrorId) : Prop where
  numbered : Numbered first ensemble.rejections ensemble.fresh
  shown : ∀ place, (ensemble.headers place).visibleError.map CommitError.id =
    Selector.current (ensemble.history place)
  tidy : ∀ place, (ensemble.headers place).Tidy
  coherent : ∀ place, (ensemble.headers place).session.Coherent

/-- New headers have a log without entries. -/
theorem start_orderly (openings : Nat → Opening) (first : ErrorId) :
    (start openings first).Orderly first := by
  refine ⟨.none_used first, fun _ => rfl, fun _ _ => rfl, ?_⟩
  intro place
  exact Header.setDatasets_coherent _ _ _ _

/-- The log of the header at a place goes on with what was done to it. -/
theorem history_take (ensemble : Ensemble) (step : Nat × Deed) (place : Nat) :
    (ensemble.take step).history place = ensemble.history place ++
      if place = step.1 then
        ((ensemble.headers step.1).act ensemble.fresh step.2).signs
      else [] := by
  simp only [history, take, List.filterMap_append, List.filterMap_map]
  congr 1
  by_cases here : place = step.1
  · rw [if_pos here]
    simp [here]
  · rw [if_neg here]
    simp [Ne.symm here]

/-- Whatever is done to one of the headers, they stay orderly. -/
theorem Orderly.take (orderly : ensemble.Orderly first) (step : Nat × Deed) :
    (ensemble.take step).Orderly first := by
  have accounts :=
    (ensemble.headers step.1).act_accounts ensemble.fresh step.2 (orderly.tidy step.1)
  refine ⟨?_, ?_, ?_, ?_⟩
  · have rejections : (ensemble.take step).rejections = ensemble.rejections ++
        ((ensemble.headers step.1).act ensemble.fresh step.2).signs.filterMap
          Sign.rejection? := by
      simp only [Ensemble.rejections, Ensemble.take, List.filterMap_append, List.filterMap_map]
      rfl
    rw [rejections]
    exact orderly.numbered.append accounts.numbered
  · intro place
    rw [history_take, Selector.current, List.foldl_append, ← Selector.current,
      ← orderly.shown place]
    by_cases here : place = step.1
    · rw [if_pos here, here]
      simp only [Ensemble.take, if_true]
      exact accounts.shown
    · rw [if_neg here]
      simp only [Ensemble.take, if_neg here]
      rfl
  · intro place
    by_cases here : place = step.1
    · simp only [Ensemble.take, if_pos here]
      exact accounts.tidy
    · simp only [Ensemble.take, if_neg here]
      exact orderly.tidy place
  · intro place
    by_cases here : place = step.1
    · simp only [Ensemble.take, if_pos here]
      exact Header.act_coherent _ _ _ (orderly.coherent step.1)
    · simp only [Ensemble.take, if_neg here]
      exact orderly.coherent place

/-- Whatever is done to headers side by side, they stay orderly. -/
theorem Orderly.follow (orderly : ensemble.Orderly first) (steps : List (Nat × Deed)) :
    (ensemble.follow steps).Orderly first := by
  induction steps generalizing ensemble with
  | nil => exact orderly
  | cons step rest ih => exact ih (orderly.take step)

/-- The ids of the rejections of any headers increase in the order of the rejections, so no two
rejections share one, and they fit a counter that has room for them. An expiry at a header
hides the rejection that is shown exactly if it names the last rejection of this header, if
something was edited there ever since, and if it is the first expiry to name that rejection.
Every other expiry changes nothing, and none changes the selector. -/
theorem expiry_hides_latest (openings : Nat → Opening) (first : ErrorId)
    (steps : List (Nat × Deed)) :
    let ensemble := (start openings first).follow steps
    ensemble.rejections.Pairwise (fun earlier later => earlier.number < later.number) ∧
      ensemble.rejections.Nodup ∧
      (first.number + ensemble.rejections.length ≤ UInt64.size →
        ∀ id ∈ ensemble.rejections, id.number < UInt64.size) ∧
      ∀ place id,
        let header := ensemble.headers place
        ((header.expireError id).2 = true ↔ Latest id (ensemble.history place)) ∧
          ((header.expireError id).2 = true →
            (∃ error, header.visibleError = some error ∧ error.id = id) ∧
              (header.expireError id).1 = { header with visibleError := none }) ∧
          ((header.expireError id).2 = false → (header.expireError id).1 = header) ∧
          (header.expireError id).1.session = header.session := by
  intro ensemble
  have orderly : ensemble.Orderly first := (start_orderly openings first).follow steps
  have increasing := orderly.numbered.increasing
  refine ⟨increasing, ?_, ?_, ?_⟩
  · refine increasing.imp ?_
    intro earlier later less same
    rw [same] at less
    exact Nat.lt_irrefl _ less
  · intro room id listed
    have bounds := orderly.numbered.bounded id listed
    have next := orderly.numbered.next
    omega
  · intro place id header
    have shown : (header.expireError id).2 = true ↔ Latest id (ensemble.history place) := by
      rw [header.expireError_hides_iff, orderly.shown place, Selector.current_eq_some_iff]
    refine ⟨shown, ?_, header.expireError_missed id, ?_⟩
    · intro hidden
      have named := (header.expireError_hides_iff id).mp hidden
      exact ⟨Option.map_eq_some_iff.mp named, header.expireError_hidden id hidden⟩
    · rw [Header.expireError_header]

/-- Two headers take turns: the first one has shown two rejections, and the one of the second is
hidden by its expiry. Only the newer one of the first header is left to expire. -/
theorem expiry_hides_latest_turns :
    let ensemble := (start (fun _ => ⟨{}, "", ["alpha"], { kind := .writer }⟩) .first).follow
      [(0, .perform (.send .edit)), (1, .perform (.send .edit)),
        (0, .perform (.send (.commit "x"))), (1, .perform (.send (.commit "y"))),
        (0, .perform (.send (.commit "z"))), (0, .expire ⟨1⟩), (1, .expire ⟨2⟩)]
    ensemble.rejections = [⟨1⟩, ⟨2⟩, ⟨3⟩] ∧ Latest ⟨3⟩ (ensemble.history 0) ∧
      ¬Latest ⟨1⟩ (ensemble.history 0) ∧ ¬Latest ⟨2⟩ (ensemble.history 1) ∧
      ((ensemble.headers 0).expireError ⟨3⟩).1.session = (ensemble.headers 0).session := by
  intro ensemble
  have law := (expiry_hides_latest (fun _ => ⟨{}, "", ["alpha"], { kind := .writer }⟩) .first
    [(0, .perform (.send .edit)), (1, .perform (.send .edit)),
      (0, .perform (.send (.commit "x"))), (1, .perform (.send (.commit "y"))),
      (0, .perform (.send (.commit "z"))), (0, .expire ⟨1⟩), (1, .expire ⟨2⟩)]).2.2.2
  refine ⟨by decide +kernel, ?_, ?_, ?_, (law 0 ⟨3⟩).2.2.2⟩
  · exact (law 0 ⟨3⟩).1.mp (by decide +kernel)
  · exact mt (law 0 ⟨1⟩).1.mpr (by decide +kernel)
  · exact mt (law 1 ⟨2⟩).1.mpr (by decide +kernel)

end Ensemble

end DatasetPicker
