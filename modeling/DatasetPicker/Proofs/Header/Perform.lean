import DatasetPicker.Header.Basic
import DatasetPicker.Proofs.Selector.Operation

/-!
# What an operation does to a header

A header takes over what its session did. The server is sent one message for each time it
is told of a commit, and the rejection to show follows the effects as long as a name is
edited.
-/

namespace DatasetPicker.Header

open Selector (Listener Report Operation ErrorId CommitError)

/-- The message by which a listener is told of a dataset, if that listener is the server. -/
def message? : Listener × String → Option Backend.Message
  | (.server, name) => some (.setDataset name)
  | (.observer _, _) => none

/-- A message that is delivered is sent, whatever becomes of it. -/
theorem deliver_backend (backend : Backend) (message : Backend.Message) :
    (backend.deliver message).1 = (backend.send message).backend := by
  simp only [Backend.deliver]
  split <;> rfl

/-- Heeding reports sends what the server is told, in order. -/
theorem heedAll_backend (backend : Backend) (reports : List Report) :
    (heedAll backend reports).1 =
      backend.sendAll ((reports.filterMap Report.told?).filterMap message?) := by
  induction reports generalizing backend with
  | nil => rfl
  | cons report rest ih =>
    have next : (heedAll backend (report :: rest)).1 =
        (heedAll (heed backend report).1 rest).1 := rfl
    rw [next, ih]
    match report with
    | .entry record => rfl
    | .told (.observer name) value => rfl
    | .told .server value =>
      have sent : (heed backend (.told .server value)).1 =
          (backend.send (.setDataset value)).backend := deliver_backend _ _
      rw [sent]
      rfl

variable (header : Header) (operation : Operation) (fresh : ErrorId)

/-- The session after an operation. -/
theorem perform_session : (header.perform operation fresh).header.session =
    (header.session.perform operation fresh).session := rfl

/-- The effects of an operation. -/
theorem perform_effects : (header.perform operation fresh).effects =
    (header.session.perform operation fresh).effects := rfl

/-- The backend after an operation. -/
theorem perform_backend : (header.perform operation fresh).header.backend =
    header.backend.sendAll
      ((header.session.perform operation fresh).told.filterMap message?) :=
  heedAll_backend _ _

/-- An expiry hides the rejection of its id and no other. -/
theorem expireError_header (id : ErrorId) : (header.expireError id).1 =
    { header with visibleError := header.visibleError.filter (·.id ≠ id) } := by
  obtain ⟨branding, session, backend, refreshing, visibleError⟩ := header
  cases visibleError with
  | none => rfl
  | some error =>
    by_cases named : error.id = id
    · simp [expireError, Option.filter, named]
    · simp [expireError, Option.filter, named]

/-- An expiry hides a rejection exactly if that is the one that is shown. -/
theorem expireError_hides_iff (id : ErrorId) :
    (header.expireError id).2 = true ↔ header.visibleError.map CommitError.id = some id := by
  obtain ⟨branding, session, backend, refreshing, visibleError⟩ := header
  cases visibleError with
  | none => simp [expireError]
  | some error =>
    by_cases named : error.id = id
    · simp [expireError, named]
    · simp [expireError, named]

/-- An expiry that hides a rejection changes nothing else. -/
theorem expireError_hidden (id : ErrorId) (hidden : (header.expireError id).2 = true) :
    (header.expireError id).1 = { header with visibleError := none } := by
  unfold expireError at hidden ⊢
  split at hidden
  · rename_i shown
    rw [if_pos shown]
  · contradiction

/-- An expiry that hides no rejection changes nothing. -/
theorem expireError_missed (id : ErrorId) (missed : (header.expireError id).2 = false) :
    (header.expireError id).1 = header := by
  unfold expireError at missed ⊢
  split at missed
  · contradiction
  · rename_i other
    rw [if_neg other]

end DatasetPicker.Header
