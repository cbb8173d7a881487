import DatasetPicker.Backend.Message
import DatasetPicker.Failure
import DatasetPicker.Journal

/-!
# Backends

Messages go to a backend and nothing waits for an answer. A backend keeps what it was given
to send and what has arrived at its other end. Sending can fail; the failure is listed in the
journal by whoever sent the message and goes no further.
-/

namespace DatasetPicker

namespace Backend

/-- The ways of sending messages. -/
inductive Kind where
  /-- To a receiver in the same process. -/
  | channel
  /-- To a receiver that is gone. -/
  | closed
  /-- One line for each message to a writer. -/
  | writer
  /-- To a writer that fails. -/
  | broken
  /-- Into the journal only. -/
  | journal
  deriving DecidableEq, Repr

end Backend

/-- A backend with the messages that arrived and those that it was given, oldest first. What
it was given is kept whatever became of it. -/
structure Backend where
  kind : Backend.Kind
  arrived : List Backend.Message := []
  given : List Backend.Message := []

namespace Backend

/-- The record of a message that is not delivered. -/
def undelivered (message : Message) : Journal.Record :=
  { level := .debug
    speaker := .backend
    message := "backend message (not delivered)"
    items :=
      [.value "kind" message.kind,
        .value "payload"
          ("\x7b" ++ ", ".intercalate (Json.Value.describeMembers message.payload) ++
            "\x7d")] }

/-- The text of a failed write. -/
def writeFailure : Failure := .io "broken pipe"

/-- The outcome of sending a message. -/
structure Sent where
  backend : Backend
  outcome : Except Failure Unit
  records : List Journal.Record := []

/-- Sends a message. -/
def send (backend : Backend) (message : Message) : Sent :=
  let backend := { backend with given := backend.given ++ [message] }
  match backend.kind with
  | .channel | .writer =>
    { backend := { backend with arrived := backend.arrived ++ [message] }
      outcome := .ok () }
  | .closed => { backend, outcome := .error .backendClosed }
  | .broken => { backend, outcome := .error writeFailure }
  | .journal => { backend, outcome := .ok (), records := [undelivered message] }

/-- The warning about a message that could not be sent. -/
def sendWarning (message : Message) (failure : Failure) : Journal.Record :=
  { level := .warn
    speaker := .header
    message := "failed to send backend message"
    items := [.value "kind" message.kind, .value "error" failure.message] }

/-- Sends a message and lists a failure instead of passing it on. -/
def deliver (backend : Backend) (message : Message) : Backend × List Journal.Record :=
  let sent := backend.send message
  match sent.outcome with
  | .ok () => (sent.backend, sent.records)
  | .error failure => (sent.backend, sent.records ++ [sendWarning message failure])

/-- Sends messages in order. -/
def sendAll (backend : Backend) : List Message → Backend
  | [] => backend
  | message :: rest => (backend.send message).backend.sendAll rest

/-- What a writer has received: a line for each message. -/
def stream (backend : Backend) : List Char := backend.arrived.flatMap Message.line

end Backend

end DatasetPicker
