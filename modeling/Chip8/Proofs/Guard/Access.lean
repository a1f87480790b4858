import Chip8.Call
import Mathlib.Algebra.Group.Nat.Defs

/-!
# Guarded access

Access to cells by plain numbers, and arithmetic on words. Each of these crashes, that is, gives
nothing, where a cell is not there, the two sides of a copy differ in length or the result does
not fit the word. A call with guards ends as it does without them, in the same state, or crashes.
-/

namespace Chip8

/-- A computation that may end with a fault, or crash. -/
inductive Guarded (α : Type)
  | ok (a : α)
  | fail (fault : Fault)
  | crash

namespace Guarded

variable {α β : Type}

def bind (computation : Guarded α) (next : α → Guarded β) : Guarded β :=
  match computation with
  | ok a => next a
  | fail fault => fail fault
  | crash => crash

instance : Monad Guarded where
  pure := ok
  bind := bind

instance : MonadLift Option Guarded where
  monadLift
    | some a => ok a
    | none => crash

/-- A computation that comes to an outcome, without a crash. -/
def settled : Except Fault α → Guarded α
  | .ok a => ok a
  | .error fault => fail fault

@[simp]
theorem ok_bind (a : α) (next : α → Guarded β) : ok a >>= next = next a := rfl

@[simp]
theorem lift_some_bind (a : α) (next : α → Guarded β) : liftM (some a) >>= next = next a := rfl

end Guarded

/-- A call that may crash, and else ends as a call does. -/
def GuardedCall (σ α : Type) := σ → Option (Ending σ α)

namespace GuardedCall

variable {σ τ α β : Type}

def bind (call : GuardedCall σ α) (next : α → GuardedCall σ β) : GuardedCall σ β := fun state =>
  match call state with
  | some (.ok a changed) => next a changed
  | some (.error fault left) => some (.error fault left)
  | none => none

instance : Monad (GuardedCall σ) where
  pure a := fun state => some (.ok a state)
  bind := bind

instance : MonadStateOf σ (GuardedCall σ) where
  get := fun state => some (.ok state state)
  set state := fun _ => some (.ok () state)
  modifyGet change := fun state => some (.ok (change state).1 (change state).2)

def crash : GuardedCall σ α := fun _ => none

def fail (fault : Fault) : GuardedCall σ α := fun state => some (.error fault state)

/-- A question with guards changes nothing, whatever state it is asked in. -/
instance : MonadLift Guarded (GuardedCall σ) where
  monadLift
    | .ok a => pure a
    | .fail fault => fail fault
    | .crash => crash

/-- A change of the state that may crash. -/
def change (next : σ → Option σ) : GuardedCall σ Unit := fun state => (next state).map (.ok ())

/-- A call with guards on a part of the state. -/
def on (part : σ → τ) (replace : σ → τ → σ) (call : GuardedCall τ α) : GuardedCall σ α :=
  fun state => (call (part state)).map fun
    | .ok a changed => .ok a (replace state changed)
    | .error fault left => .error fault (replace state left)

variable {state : σ}

theorem get_bind (next : σ → GuardedCall σ β) (state : σ) :
    (get >>= next) state = next state state := rfl

theorem modify_bind (change : σ → σ) (next : PUnit → GuardedCall σ β) (state : σ) :
    (modify change >>= next) state = next ⟨⟩ (change state) := rfl

theorem lift_some_bind (a : α) (next : α → GuardedCall σ β) : liftM (some a) >>= next = next a :=
  rfl

theorem lift_ok_bind (a : α) (next : α → GuardedCall σ β) :
    liftM (Guarded.ok a) >>= next = next a := rfl

theorem bind_of_ok {call : GuardedCall σ α} {next : α → GuardedCall σ β} {a : α} {changed : σ}
    (hok : call state = some (.ok a changed)) : (call >>= next) state = next a changed := by
  simp only [Bind.bind, bind, hok]

/-- Calls in sequence end as without guards if the first one does, and what follows it. -/
theorem bind_eq_some {call : GuardedCall σ α} {plain : Call σ α} {next : α → GuardedCall σ β}
    {plainNext : α → Call σ β} (hcall : call state = some (plain state))
    (hnext : ∀ a changed, plain state = .ok a changed →
      next a changed = some (plainNext a changed)) :
    (call >>= next) state = some ((plain >>= plainNext) state) := by
  simp only [Bind.bind, bind, EStateM.bind, hcall]
  cases hplain : plain state with
  | ok a changed => exact hnext a changed hplain
  | error fault left => rfl

theorem lift_settled (question : Except Fault α) (state : σ) :
    (liftM (Guarded.settled question) : GuardedCall σ α) state =
      some ((liftM question : Call σ α) state) := by
  cases question <;> rfl

theorem change_eq_some {next : σ → Option σ} {plain : σ → σ}
    (hnext : next state = some (plain state)) :
    change next state = some ((modify plain : Call σ PUnit) state) := by
  rw [change, hnext]
  rfl

theorem on_eq_some {part : σ → τ} {replace : σ → τ → σ} {call : GuardedCall τ α}
    {plain : Call τ α} (hcall : call (part state) = some (plain (part state))) :
    call.on part replace state = some (plain.on part replace state) := by
  rw [on, hcall, Call.on]
  cases plain (part state) <;> rfl

end GuardedCall

namespace Guard

theorem mapM_eq_some {α β : Type} {f : α → Option β} {g : α → β} {items : List α}
    (hsome : ∀ a ∈ items, f a = some (g a)) : items.mapM f = some (items.map g) := by
  induction items with
  | nil => rfl
  | cons a rest ih =>
    obtain ⟨ha, hrest⟩ := List.forall_mem_cons.mp hsome
    rw [List.mapM_cons, ha, ih hrest]
    rfl

section Cells

variable {α : Type} {n : Nat}

def read (cells : Vector α n) (k : Nat) : Option α := cells[k]?

def assign (cells : Vector α n) (k : Nat) (a : α) : Option (Vector α n) :=
  if h : k < n then some (cells.set k a) else none

/-- The cells from `start` up to `stop`. -/
def slice (cells : List α) (start stop : Nat) : Option (List α) :=
  if start ≤ stop ∧ stop ≤ cells.length then some ((cells.take stop).drop start) else none

/-- Overwrites the cells from `start` up to `stop` with a source of that length. -/
def copy (cells : Vector α n) (start stop : Nat) (source : List α) : Option (Vector α n) :=
  if start ≤ stop ∧ stop ≤ n ∧ source.length = stop - start then
    some (cells.mapIdx fun k old => if k < start then old else source.getD (k - start) old)
  else none

theorem read_of_lt {cells : Vector α n} {k : Nat} (h : k < n) : read cells k = some cells[k] :=
  Vector.getElem?_eq_getElem h

theorem assign_of_lt {cells : Vector α n} {k : Nat} {a : α} (h : k < n) :
    assign cells k a = some (cells.set k a) := dif_pos h

theorem slice_of_le {cells : List α} {start stop : Nat} (hstart : start ≤ stop)
    (hstop : stop ≤ cells.length) : slice cells start stop = some ((cells.take stop).drop start) :=
  if_pos ⟨hstart, hstop⟩

theorem copy_of_le {cells : Vector α n} {start stop : Nat} {source : List α}
    (hstart : start ≤ stop) (hstop : stop ≤ n) (hlength : source.length = stop - start) :
    copy cells start stop source =
      some (cells.mapIdx fun k old => if k < start then old else source.getD (k - start) old) :=
  if_pos ⟨hstart, hstop, hlength⟩

end Cells

def add16 (a b : UInt16) : Option UInt16 :=
  if a.toNat + b.toNat < 2 ^ 16 then some (a + b) else none

def mul16 (a b : UInt16) : Option UInt16 :=
  if a.toNat * b.toNat < 2 ^ 16 then some (a * b) else none

def shiftRight16 (a b : UInt16) : Option UInt16 := if b.toNat < 16 then some (a >>> b) else none

def add64 (a b : UInt64) : Option UInt64 :=
  if a.toNat + b.toNat < 2 ^ 64 then some (a + b) else none

def sub64 (a b : UInt64) : Option UInt64 := if b.toNat ≤ a.toNat then some (a - b) else none

theorem add16_of_lt {a b : UInt16} (h : a.toNat + b.toNat < 2 ^ 16) : add16 a b = some (a + b) :=
  if_pos h

theorem mul16_of_lt {a b : UInt16} (h : a.toNat * b.toNat < 2 ^ 16) : mul16 a b = some (a * b) :=
  if_pos h

theorem add64_of_lt {a b : UInt64} (h : a.toNat + b.toNat < 2 ^ 64) : add64 a b = some (a + b) :=
  if_pos h

theorem sub64_of_le {a b : UInt64} (h : b.toNat ≤ a.toNat) : sub64 a b = some (a - b) :=
  if_pos h

end Guard

end Chip8
