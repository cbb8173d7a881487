import DatasetPicker.App.Key

/-!
# Events of a terminal

A device reports more than the application wants to know. What it reports becomes a key, a
pointer, a new size, or a tick on which nothing has happened.
-/

namespace DatasetPicker.Terminal

/-- The size of a screen in columns and rows. -/
structure Size where
  width : Nat
  height : Nat
  deriving DecidableEq, Repr

/-- What happened to a key. -/
inductive Stroke where
  | press
  | repeated
  | release
  deriving DecidableEq, Repr

/-- The buttons of a pointing device. -/
inductive Button where
  | left
  | middle
  | right
  deriving DecidableEq, Repr

/-- What a pointing device did. -/
inductive Gesture where
  | down (button : Button)
  | up (button : Button)
  | drag (button : Button)
  | moved
  | scroll
  deriving DecidableEq, Repr

/-- What a device reports. -/
inductive Report where
  /-- A key that the application does not know has the code `unknown`. -/
  | key (code : App.KeyCode) (modifiers : App.Modifiers) (stroke : Stroke)
  | pointer (gesture : Gesture) (column row : Nat)
  | resize (size : Size)
  /-- The focus changed, or text was pasted. -/
  | other
  deriving DecidableEq, Repr

/-- What the application is told. -/
inductive Event where
  | key (key : App.Key)
  | pointer (pointer : App.Pointer)
  | resize (size : Size)
  | tick
  deriving DecidableEq, Repr

/-- The modifiers of a key. The key that goes one tab back is a shifted key. -/
def modifiersOf (code : App.KeyCode) (modifiers : App.Modifiers) : App.Modifiers :=
  if code = .backTab then { modifiers with shift := true } else modifiers

/-- What the pointer did, if it concerns the application: only the left button clicks, and
a drag is a movement. -/
def Gesture.kind? : Gesture → Option App.PointerKind
  | .moved | .drag _ => some .moved
  | .down .left => some .click
  | _ => none

/-- The event of a report. A key acts when it goes down, not when it comes up. -/
def Report.event : Report → Event
  | .key _ _ .release => .tick
  | .key code modifiers _ => .key ⟨code, modifiersOf code modifiers⟩
  | .pointer gesture column row =>
    match gesture.kind? with
    | some kind => .pointer ⟨kind, column, row⟩
    | none => .tick
  | .resize size => .resize size
  | .other => .tick

end DatasetPicker.Terminal
