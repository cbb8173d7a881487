import DatasetPicker.App.Command

/-!
# Key bindings

Some keys mean the same command whatever the selector does. Every other key is given to
the application as input.
-/

namespace DatasetPicker.App

/-- The bound keys with their commands, no key twice. -/
structure Bindings where
  entries : List (Key × Command) := []
  deriving DecidableEq, Repr

namespace Bindings

/-- The command of a key. -/
def resolve? (bindings : Bindings) (key : Key) : Option Command :=
  bindings.entries.lookup key

/-- Frees a key. -/
def unbind (bindings : Bindings) (key : Key) : Bindings :=
  { entries := bindings.entries.filter (·.1 ≠ key) }

/-- Binds a key, in place of what it meant before. -/
def bind (bindings : Bindings) (key : Key) (command : Command) : Bindings :=
  { entries := (key, command) :: (bindings.unbind key).entries }

/-- The bindings of an application that was given none. -/
def standard : Bindings :=
  { entries :=
      [(⟨.char 'c', { control := true }⟩, .exit),
        (⟨.char 'r', { control := true }⟩, .refresh),
        (⟨.char 'u', { control := true }⟩, .clearInput),
        (⟨.esc, {}⟩, .blur),
        (⟨.enter, {}⟩, .commit),
        (⟨.down, {}⟩, .nextResult),
        (⟨.up, {}⟩, .previousResult),
        (⟨.tab, {}⟩, .acceptCompletion)] }

/-- What a key does: its command, or else it is input. -/
def command (bindings : Bindings) (key : Key) : Command :=
  (bindings.resolve? key).getD (.inputKey key)

end Bindings

end DatasetPicker.App
