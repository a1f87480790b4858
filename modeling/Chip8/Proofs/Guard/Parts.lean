import Chip8.Machine.Screen
import Chip8.Proofs.Execution
import Chip8.Proofs.Guard.Access

/-!
# The guarded call stack and screen
-/

namespace Chip8

open GuardedCall (lift_some_bind)

namespace CallStack

/-- The depth must stay within the cells. -/
def guardedPush (address : UInt16) : GuardedCall CallStack Unit := do
  let stack ← get
  if 16 ≤ stack.depth then .fail .stackOverflow
  else
    let cells ← Guard.assign stack.cells stack.depth address
    if h : stack.depth + 1 ≤ 16 then set (CallStack.mk cells (stack.depth + 1) h) else .crash

def guardedPop : GuardedCall CallStack UInt16 := do
  let stack ← get
  if stack.depth = 0 then .fail .stackUnderflow
  else
    set (CallStack.mk stack.cells (stack.depth - 1)
      (Nat.le_trans (Nat.sub_le _ _) stack.depth_le))
    Guard.read stack.cells (stack.depth - 1)

def guardedLive (stack : CallStack) : Option (List UInt16) :=
  Guard.slice stack.cells.toList 0 stack.depth

theorem guardedPush_eq (stack : CallStack) (address : UInt16) :
    stack.guardedPush address = some (stack.push address) := by
  rw [guardedPush, GuardedCall.get_bind, push_eq]
  by_cases hroom : stack.depth < 16
  · rw [if_neg (Nat.not_le.mpr hroom), dif_pos hroom, Guard.assign_of_lt hroom, lift_some_bind,
      dif_pos (Nat.succ_le_of_lt hroom)]
    rfl
  · rw [if_pos (Nat.le_of_not_lt hroom), dif_neg hroom]
    rfl

theorem guardedPop_eq (stack : CallStack) : stack.guardedPop = some stack.pop := by
  rw [guardedPop, GuardedCall.get_bind, pop_eq]
  by_cases hlive : 0 < stack.depth
  · have hcell : stack.depth - 1 < 16 := by
      have hdepth := stack.depth_le
      omega
    rw [if_neg (Nat.ne_of_gt hlive), dif_pos hlive, Guard.read_of_lt hcell]
    rfl
  · rw [if_pos (Nat.eq_zero_of_not_pos hlive), dif_neg hlive]
    rfl

theorem guardedLive_eq (stack : CallStack) : stack.guardedLive = some stack.live := by
  have hdepth : stack.depth ≤ stack.cells.toList.length := by
    rw [Vector.length_toList]
    exact stack.depth_le
  rw [guardedLive, Guard.slice_of_le (Nat.zero_le _) hdepth]
  rfl

end CallStack

namespace Registers

def guardedOnStack {α : Type} : GuardedCall CallStack α → GuardedCall Registers α :=
  .on Registers.stack fun registers stack => { registers with stack }

def guardedPush (address : UInt16) : GuardedCall Registers Unit :=
  guardedOnStack (CallStack.guardedPush address)

def guardedPop : GuardedCall Registers UInt16 := guardedOnStack CallStack.guardedPop

theorem guardedPush_eq (registers : Registers) (address : UInt16) :
    registers.guardedPush address = some (registers.push address) := by
  rw [guardedPush, guardedOnStack, push, onStack]
  exact GuardedCall.on_eq_some (registers.stack.guardedPush_eq address)

theorem guardedPop_eq (registers : Registers) : registers.guardedPop = some registers.pop := by
  rw [guardedPop, guardedOnStack, pop, onStack]
  exact GuardedCall.on_eq_some registers.stack.guardedPop_eq

end Registers

namespace Screen

def guardedIsLit (screen : Screen) (x y : Nat) : Option Bool :=
  Guard.read screen.pixels (y % 32 * 64 + x % 64)

def guardedToggle (screen : Screen) (x y : Nat) : Option (Screen × Bool) := do
  let place := y % 32 * 64 + x % 64
  let pixels ← Guard.assign screen.pixels place !(← Guard.read screen.pixels place)
  return (⟨pixels, true⟩, !(← Guard.read pixels place))

def guardedToggleAll (screen : Screen) : List (Nat × Nat) → Option (Screen × Nat)
  | [] => return (screen, 0)
  | (x, y) :: rest => do
    let (toggled, erased) ← screen.guardedToggle x y
    let (final, count) ← toggled.guardedToggleAll rest
    return (final, count + erased.toNat)

theorem guardedIsLit_eq (screen : Screen) (x y : Nat) :
    screen.guardedIsLit x y = some (screen.isLit x y) :=
  Guard.read_of_lt (cell x y).isLt

theorem guardedToggle_eq (screen : Screen) (x y : Nat) :
    screen.guardedToggle x y = some (screen.toggle x y) := by
  have hplace : y % 32 * 64 + x % 64 < 2048 := (cell x y).isLt
  simp [guardedToggle, Guard.read_of_lt hplace, Guard.assign_of_lt hplace, toggle, isLit, cell]

theorem guardedToggleAll_eq (screen : Screen) (places : List (Nat × Nat)) :
    screen.guardedToggleAll places = some (screen.toggleAll places) := by
  induction places generalizing screen with
  | nil => rfl
  | cons place rest ih =>
    obtain ⟨x, y⟩ := place
    rw [guardedToggleAll, guardedToggle_eq]
    simp only [Option.bind_eq_bind, Option.bind_some, ih]
    rfl

end Screen

end Chip8
