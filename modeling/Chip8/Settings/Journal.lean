import Chip8.Journal
import Chip8.Settings.Storage

/-!
The records that reading settings leaves.
-/

namespace Chip8

/-- Each complaint is a warning. -/
def Settings.loadJournal (store : Store) : List Record :=
  (Settings.complaints store).map fun fault =>
    ⟨.warn, .config, fault.message ++ ", keeping the default"⟩

end Chip8
