import DatasetPicker.Backend.Basic

/-!
# What becomes of messages

A backend is given each message that is sent, in order, and stays of its kind. Whether messages
arrive depends on the kind alone.
-/

namespace DatasetPicker.Backend

/-- The messages that a backend is given arrive. -/
def Delivers (backend : Backend) : Prop := backend.kind = .channel ∨ backend.kind = .writer

variable (backend : Backend) (message : Message) (messages : List Message)

/-- A backend keeps its kind when it sends. -/
theorem send_kind : (backend.send message).backend.kind = backend.kind := by
  obtain ⟨kind, arrived, given⟩ := backend
  cases kind <;> rfl

/-- A message that is sent was given to the backend. -/
theorem send_given : (backend.send message).backend.given = backend.given ++ [message] := by
  obtain ⟨kind, arrived, given⟩ := backend
  cases kind <;> rfl

/-- A message that is sent by a backend that delivers arrives. -/
theorem send_arrived (delivers : backend.Delivers) :
    (backend.send message).backend.arrived = backend.arrived ++ [message] := by
  obtain ⟨kind, arrived, given⟩ := backend
  obtain rfl | rfl := delivers <;> rfl

/-- A backend keeps its kind whatever it sends. -/
theorem sendAll_kind : (backend.sendAll messages).kind = backend.kind := by
  induction messages generalizing backend with
  | nil => rfl
  | cons message rest ih => exact (ih _).trans (backend.send_kind message)

/-- Messages that are sent were given to the backend in order. -/
theorem sendAll_given : (backend.sendAll messages).given = backend.given ++ messages := by
  induction messages generalizing backend with
  | nil => exact (List.append_nil _).symm
  | cons message rest ih =>
    rw [sendAll, ih, send_given, List.append_assoc, List.singleton_append]

/-- What a backend that delivers has sent still delivers. -/
theorem Delivers.sendAll {backend : Backend} (delivers : backend.Delivers)
    (messages : List Message) : (backend.sendAll messages).Delivers := by
  rw [Delivers, sendAll_kind]
  exact delivers

/-- Messages that are sent by a backend that delivers arrive in order. -/
theorem sendAll_arrived (delivers : backend.Delivers) :
    (backend.sendAll messages).arrived = backend.arrived ++ messages := by
  induction messages generalizing backend with
  | nil => exact (List.append_nil _).symm
  | cons message rest ih =>
    have still : (backend.send message).backend.Delivers := delivers.sendAll [message]
    rw [sendAll, ih _ still, backend.send_arrived message delivers, List.append_assoc,
      List.singleton_append]

end DatasetPicker.Backend
