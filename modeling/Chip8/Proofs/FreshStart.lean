import Chip8.Proofs.Debugging
import Chip8.Proofs.Frozen

/-!
# A fresh start

A program that fits starts on a machine without a past. Memory, registers, picture, keypad and mode
are those of a start, whatever ran before and however that ended; only the configuration and the
random source are kept. Two machines that agree in these two are the same from there on.
-/

namespace Chip8

namespace Machine

/-- A program is about to start, and nothing is left of another. -/
structure Fresh (machine : Machine) (program : List UInt8) : Prop where
  font (k : Nat) (hk : k < 80) : machine.memory.bytes[k] = Memory.font.getD k 0
  code (k : Nat) (hk : k < program.length) : machine.memory.bytes[0x200 + k]? = program[k]?
  unused (k : Nat) (hk : k < 4096) (hfont : 80 ≤ k)
    (hcode : k < 0x200 ∨ 0x200 + program.length ≤ k) : machine.memory.bytes[k] = 0
  general (x : Register) : machine.registers.read x = 0
  index : machine.registers.index = 0
  pc : machine.registers.pc = 0x200
  delay : machine.registers.delay = 0
  sound : machine.registers.sound = 0
  depth : machine.registers.stack.depth = 0
  /-- The cells above the live ones are cleared as well. -/
  cells (k : Fin 16) : machine.registers.stack.cells[k] = 0
  dark (x y : Nat) : machine.screen.isLit x y = false
  marked : machine.screen.dirty = true
  released (key : UInt8) : machine.keypad.isPressed key = false
  disarmed : machine.keypad.armed = false
  running : machine.mode = .running

variable {machine first second loaded : Machine} {program : List UInt8}

theorem fresh_of_load (hfits : program.length ≤ 3584)
    (hloaded : machine.load program = .ok () loaded) : loaded.Fresh program := by
  have hmemory := memory_of_load hloaded
  have hregisters := registers_of_load hloaded
  have hscreen := screen_of_load hloaded
  have hkeypad := keypad_of_load hloaded
  constructor
  case font =>
    intro k hk
    simp only [hmemory]
    rw [Memory.getElem_bytes_write, if_neg (by omega), Memory.getElem_bytes_initial]
  case code =>
    intro k hk
    rw [hmemory, Vector.getElem?_eq_getElem (by omega), Memory.getElem_bytes_write,
      if_pos (Nat.le_add_right _ _), Nat.add_sub_cancel_left, List.getD_eq_getElem?_getD,
      List.getElem?_eq_getElem hk, Option.getD_some]
  case unused =>
    intro k hk hfont hcode
    have hlength : Memory.font.length ≤ k := hfont
    simp only [hmemory]
    rw [Memory.getElem_bytes_write_of_outside hk (by omega), Memory.getElem_bytes_initial,
      List.getD_eq_getElem?_getD, List.getElem?_eq_none hlength, Option.getD_none]
  case general =>
    intro x
    rw [hregisters]
    simp [Registers.initial, Registers.read]
  case cells =>
    intro k
    rw [hregisters]
    simp [Registers.initial, CallStack.empty]
  case dark =>
    intro x y
    rw [hscreen]
    simp [Screen.blank, Screen.markDirty, Screen.isLit]
  case released =>
    intro key
    rw [hkeypad, Keypad.isPressed, Keypad.idle, Vector.getElem?_replicate]
    split <;> rfl
  case running => exact mode_of_load hloaded
  case marked => rw [hscreen]; rfl
  case disarmed => rw [hkeypad]; rfl
  all_goals rw [hregisters]; rfl

theorem after_load (hloaded : machine.load program = .ok () loaded) (commands : List Command) :
    machine.after (.load program :: commands) = loaded.after commands ∧
      machine.replies (.load program :: commands) = {} :: loaded.replies commands := by
  rw [after_cons, replies, apply_load hloaded]
  exact ⟨rfl, rfl⟩

section Forget

variable (hconfig : first.config = second.config) (hrandom : first.random = second.random)
include hconfig hrandom

theorem reset_congr : first.reset = second.reset := by
  simp only [reset, Screen.clear, hconfig, hrandom]

/-- What is loaded depends on no more than the configuration and the random source. -/
theorem load_congr (hfits : program.length ≤ 3584) : first.load program = second.load program := by
  rw [load_of_le hfits, load_of_le hfits, reset_congr hconfig hrandom]

/-- **Loading forgets the past.** On machines with any histories that have the same configuration
and random source, a program that fits starts on the same machine. It holds the font, the program
and nothing else, so that the same commands have the same outcomes and notices from there on. -/
theorem load_forgets_history (hfits : program.length ≤ 3584) :
    ∃ loaded, first.load program = .ok () loaded ∧ second.load program = .ok () loaded ∧
      loaded.Fresh program ∧ loaded.config = first.config ∧ loaded.random = first.random ∧
        ∀ commands,
          first.after (.load program :: commands) = second.after (.load program :: commands) ∧
            first.replies (.load program :: commands) =
              second.replies (.load program :: commands) := by
  obtain ⟨loaded, hfirst⟩ := first.exists_load hfits
  have hsecond : second.load program = .ok () loaded := by
    rw [← load_congr hconfig hrandom hfits, hfirst]
  refine ⟨loaded, hfirst, hsecond, fresh_of_load hfits hfirst, config_load hfirst,
    random_of_load hfirst, ?_⟩
  intro commands
  obtain ⟨hafter, hreplies⟩ := after_load hfirst commands
  obtain ⟨hafter', hreplies'⟩ := after_load hsecond commands
  exact ⟨hafter.trans hafter'.symm, hreplies.trans hreplies'.symm⟩

end Forget

/-- A new machine, with a key held and a pixel lit. -/
def toyedWith : Machine := (create .default (.ofList [])).after [.keyDown 5, .togglePixel 3 4]

theorem toyedWith_used :
    toyedWith.config = (create .default (.ofList [])).config ∧
      toyedWith.random = (create .default (.ofList [])).random ∧
      toyedWith.keypad.isPressed 5 = true ∧ toyedWith.screen.isLit 3 4 = true := by
  have hafter (machine : Machine) : machine.after [.keyDown 5, .togglePixel 3 4] =
      { machine.keyDown 5 with screen := (machine.screen.toggle 3 4).1 } := rfl
  rw [toyedWith, hafter]
  refine ⟨rfl, rfl, by decide, ?_⟩
  simp [Screen.isLit, Screen.toggle, create, Screen.blank]

theorem halted_and_toyedWith_start_alike :
    haltedAtOnce.mode = .halted ∧ toyedWith.keypad.isPressed 5 = true ∧
      toyedWith.screen.isLit 3 4 = true ∧
      haltedAtOnce.config = toyedWith.config ∧ haltedAtOnce.random = toyedWith.random ∧
      keyCounter.length ≤ 3584 ∧
      ∃ loaded, haltedAtOnce.load keyCounter = .ok () loaded ∧
        toyedWith.load keyCounter = .ok () loaded ∧ loaded.Fresh keyCounter ∧
        haltedAtOnce.replies [.load keyCounter, .cycle] =
          toyedWith.replies [.load keyCounter, .cycle] := by
  obtain ⟨hconfig, hrandom, hpressed, hlit⟩ := toyedWith_used
  have hconfig : haltedAtOnce.config = toyedWith.config := by
    rw [hconfig, haltedAtOnce_eq]
    exact (config_load load_illegal :)
  have hrandom : haltedAtOnce.random = toyedWith.random := by
    rw [hrandom, haltedAtOnce_eq]
    exact (random_of_load load_illegal :)
  have hfits : keyCounter.length ≤ 3584 := by decide
  obtain ⟨loaded, hfirst, hsecond, hfresh, -, -, hsame⟩ :=
    load_forgets_history hconfig hrandom hfits
  exact ⟨haltedAtOnce_halted.1, hpressed, hlit, hconfig, hrandom, hfits, loaded, hfirst, hsecond,
    hfresh, (hsame [.cycle]).2⟩

end Machine

end Chip8
