/-!
The screen of 64 by 32 pixels, row by row. Coordinates wrap around its edges, and pixels are only
ever toggled or cleared.
-/

namespace Chip8

/-- `dirty` says that the picture may have changed since it was last taken. -/
structure Screen where
  pixels : Vector Bool 2048
  dirty : Bool
  deriving DecidableEq

namespace Screen

def blank : Screen := ⟨Vector.replicate 2048 false, false⟩

/-- The place of a pixel in the row by row order. -/
def cell (x y : Nat) : Fin 2048 := ⟨y % 32 * 64 + x % 64, by omega⟩

def isLit (screen : Screen) (x y : Nat) : Bool := screen.pixels[cell x y]

def markDirty (screen : Screen) : Screen := { screen with dirty := true }

def markClean (screen : Screen) : Screen := { screen with dirty := false }

def clear (_ : Screen) : Screen := blank.markDirty

/-- Inverts a pixel, and tells whether that erased a lit one. -/
def toggle (screen : Screen) (x y : Nat) : Screen × Bool :=
  let lit := screen.isLit x y
  (⟨screen.pixels.set (cell x y) !lit, true⟩, lit)

/-- Inverts pixels in turn, and counts the lit ones among them. -/
def toggleAll (screen : Screen) : List (Nat × Nat) → Screen × Nat
  | [] => (screen, 0)
  | (x, y) :: rest =>
    let (toggled, erased) := screen.toggle x y
    let (final, count) := toggled.toggleAll rest
    (final, count + erased.toNat)

/-- The set pixels of a sprite with its top left corner at the given place. The highest bit of a
row is its leftmost pixel. -/
def sprite (x y : Nat) (rows : List UInt8) : List (Nat × Nat) :=
  rows.zipIdx.flatMap fun (row, k) =>
    (List.range 8).filterMap fun column =>
      if row.toNat.testBit (7 - column) then some (x + column, y + k) else none

/-- Inverts the pixels of a sprite, and tells whether that erased a lit one. The screen is dirty
afterwards even if the sprite is empty. -/
def draw (screen : Screen) (x y : Nat) (rows : List UInt8) : Screen × Bool :=
  let (drawn, erased) := screen.toggleAll (sprite x y rows)
  (drawn.markDirty, erased != 0)

end Screen

end Chip8
