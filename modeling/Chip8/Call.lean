import Chip8.Fault

/-!
Calls that change a state as they go. There is a state after every call: one that fails leaves what
it has changed until then.
-/

namespace Chip8

/-- A call on a state, and its answer if it does not fail. -/
abbrev Call (σ α : Type) := EStateM Fault σ α

/-- How a call has ended, and the state that it has left. -/
abbrev Ending (σ α : Type) := EStateM.Result Fault σ α

/-- A question that may be refused changes nothing, whatever state it is asked in. -/
instance {σ : Type} : MonadLift (Except Fault) (EStateM Fault σ) where
  monadLift
    | .ok a => pure a
    | .error fault => throw fault

namespace Call

variable {σ τ α : Type}

/-- A call on a part of the state. -/
def on (part : σ → τ) (replace : σ → τ → σ) (call : Call τ α) : Call σ α := fun state =>
  match call (part state) with
  | .ok a changed => .ok a (replace state changed)
  | .error fault left => .error fault (replace state left)

end Call

/-- The state after a call, and the fault of one that has failed. -/
def settle {σ α : Type} : Ending σ α → σ × Option Fault
  | .ok _ state => (state, none)
  | .error fault state => (state, some fault)

end Chip8
