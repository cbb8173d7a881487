import DatasetPicker.Proofs.Header.Exchange
import DatasetPicker.Proofs.Selector.Coherence

/-!
# The headers that can be reached

A header is started on a feed of datasets. Then its selector is operated on, the feed is
replaced, the logo is clicked and rejections expire, in any order. Whatever happens, the
selector stays coherent and its commits are told to the server.
-/

namespace DatasetPicker

namespace Selector.Session

/-- Only a feed replaces the listener. -/
theorem perform_listener (session : Session) (operation : Operation) (fresh : ErrorId)
    (feed : operation.isFeed = false) :
    (session.perform operation fresh).session.context.listener = session.context.listener := by
  cases session.perform_course operation fresh feed with
  | passes quiet => exact quiet.listener
  | chooses value known changed ended unused effects told => rw [ended]; rfl
  | refuses value editing marked used effects told => rw [marked]

end Selector.Session

namespace Header

open Selector (Operation ErrorId Session)

/-- A header that was started on a feed, after anything that can happen to it. -/
inductive Reached : Header → Prop where
  | start (branding : Branding) (active : String) (datasets : List String) (backend : Backend)
      (fresh : ErrorId) : Reached (start branding active datasets backend fresh).header
  | perform {header : Header} (reached : Reached header) (operation : Operation)
      (feed : operation.isFeed = false) (fresh : ErrorId) :
      Reached (header.perform operation fresh).header
  | setDatasets {header : Header} (reached : Reached header) (active : String)
      (datasets : List String) (fresh : ErrorId) :
      Reached (header.setDatasets active datasets fresh).header
  | activateLogo {header : Header} (reached : Reached header) : Reached header.activateLogo.1
  | expireError {header : Header} (reached : Reached header) (id : ErrorId) :
      Reached (header.expireError id).1

variable {header : Header}

/-- A feed leaves the selector coherent. -/
theorem setDatasets_coherent (header : Header) (active : String) (datasets : List String)
    (fresh : ErrorId) : (header.setDatasets active datasets fresh).header.session.Coherent := by
  obtain ⟨-, -, session⟩ := header.setDatasets_silent active datasets fresh
  rw [session]
  exact Session.coherent_reading _ (Selector.Context.feed_settled active datasets _)

/-- The selector of a header is coherent. -/
theorem Reached.coherent (reached : header.Reached) : header.session.Coherent := by
  induction reached with
  | start branding active datasets backend fresh => exact setDatasets_coherent _ _ _ _
  | perform _ operation feed fresh ih => exact ih.sendAll fresh _
  | setDatasets _ active datasets fresh _ => exact setDatasets_coherent _ _ _ _
  | activateLogo _ ih => exact ih
  | expireError _ id ih => rw [expireError_header]; exact ih

/-- The server is told of the commits of a header. -/
theorem Reached.listener (reached : header.Reached) :
    header.session.context.listener = some .server := by
  induction reached with
  | start branding active datasets backend fresh => rfl
  | perform _ operation feed fresh ih => exact (Session.perform_listener _ _ fresh feed).trans ih
  | setDatasets _ active datasets fresh _ => rfl
  | activateLogo _ ih => exact ih
  | expireError _ id ih => rw [expireError_header]; exact ih

end Header

end DatasetPicker
