/-!
The keypad of sixteen keys, with a latch for the next release. An armed latch fires once, on the
first release of a key, and is then no longer armed.
-/

namespace Chip8

structure Keypad where
  pressed : Vector Bool 16
  armed : Bool
  deriving DecidableEq

namespace Keypad

def idle : Keypad := ⟨Vector.replicate 16 false, false⟩

/-- A key above 15 is never pressed. -/
def isPressed (keypad : Keypad) (key : UInt8) : Bool := keypad.pressed[key.toNat]?.getD false

/-- A key above 15 is ignored. -/
def press (keypad : Keypad) (key : UInt8) : Keypad :=
  { keypad with pressed := keypad.pressed.setIfInBounds key.toNat true }

/-- Any key of the pad fires an armed latch, whether it was held or not. -/
def release (keypad : Keypad) (key : UInt8) : Keypad × Option UInt8 :=
  if key < 16 then
    let fired := if keypad.armed then some key else none
    (⟨keypad.pressed.setIfInBounds key.toNat false, false⟩, fired)
  else (keypad, none)

def arm (keypad : Keypad) : Keypad := { keypad with armed := true }

def disarm (keypad : Keypad) : Keypad := { keypad with armed := false }

/-- The lowest key that is held now and not in the given state. -/
def firstReleased? (keypad : Keypad) (keys : Vector Bool 16) : Option (Fin 16) :=
  (List.finRange 16).find? fun key => keypad.pressed[key] && !keys[key]

/-- Takes over the state of all keys at once. The lowest released key fires an armed latch. -/
def update (keypad : Keypad) (keys : Vector Bool 16) : Keypad × Option UInt8 :=
  match keypad.firstReleased? keys with
  | none => ({ keypad with pressed := keys }, none)
  | some key => (⟨keys, false⟩, if keypad.armed then some (UInt8.ofNat key) else none)

/-- Key codes of the left-hand side of a keyboard, row by row, and the keys that they stand for. -/
def keymap : List (UInt32 × UInt8) := [
  (49, 0x1), (50, 0x2), (51, 0x3), (52, 0xC),
  (81, 0x4), (87, 0x5), (69, 0x6), (82, 0xD),
  (65, 0x7), (83, 0x8), (68, 0x9), (70, 0xE),
  (90, 0xA), (88, 0x0), (67, 0xB), (86, 0xF)]

def keyOfCode? (code : UInt32) : Option UInt8 := keymap.lookup code

end Keypad

end Chip8
