/-!
A source of random bytes: an endless sequence and how many of it are used up.
-/

namespace Chip8

structure RandomSource where
  bytes : Nat → UInt8
  drawn : Nat

namespace RandomSource

/-- The given bytes first, and zeros after them. -/
def ofList (bytes : List UInt8) : RandomSource := ⟨fun n => bytes.getD n 0, 0⟩

def next (source : RandomSource) : UInt8 × RandomSource :=
  (source.bytes source.drawn, { source with drawn := source.drawn + 1 })

end RandomSource

end Chip8
