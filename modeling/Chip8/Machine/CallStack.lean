import Chip8.Call

/-!
The call stack: sixteen cells, of which the first `depth` are live. Popping leaves a cell's value
behind, where the next push overwrites it.
-/

namespace Chip8

structure CallStack where
  cells : Vector UInt16 16
  depth : Nat
  depth_le : depth ≤ 16
  deriving DecidableEq

namespace CallStack

def empty : CallStack := ⟨Vector.replicate 16 0, 0, by decide⟩

/-- The live return addresses, oldest first. -/
def live (stack : CallStack) : List UInt16 := stack.cells.toList.take stack.depth

def push (address : UInt16) : Call CallStack Unit := do
  let stack ← get
  if h : stack.depth < 16 then
    set (CallStack.mk (stack.cells.set stack.depth address) (stack.depth + 1) h)
  else throw .stackOverflow

/-- Takes off the last live address. -/
def pop : Call CallStack UInt16 := do
  let stack ← get
  if h : 0 < stack.depth then
    have := stack.depth_le
    set (CallStack.mk stack.cells (stack.depth - 1) (by omega))
    return stack.cells[stack.depth - 1]
  else throw .stackUnderflow

end CallStack

end Chip8
