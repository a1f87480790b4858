import Chip8.Proofs.Control
import Chip8.Proofs.Guard.Execute
import Chip8.Proofs.Guard.Keypad

/-!
# Guarded commands

A machine of which every step, every cycle and every command runs with guards does what the machine
does, whatever its state. The fetch bounds the program counter, so that neither the advance nor a
skip past it wraps around.
-/

namespace Chip8

open Guarded (settled)
open GuardedCall (lift_some_bind bind_eq_some change_eq_some lift_settled)

namespace Machine

def guardedFetch (machine : Machine) : Guarded UInt16 :=
  machine.memory.guardedFetch machine.registers.pc.toUInt64

/-- An instruction is also put into words, for the journal. -/
def guardedPerform (word address : UInt16) : GuardedCall Machine Unit :=
  match decode word with
  | none => .fail (.unknownOpcode word address)
  | some decoded => do
    let _text ← decoded.guardedText
    guardedExecute decoded

def guardedFetchAndPerform : GuardedCall Machine Unit := do
  let machine ← get
  let word ← machine.guardedFetch
  .change guardedAdvance
  guardedPerform word machine.registers.pc

def guardedStep (machine : Machine) : Option (Machine × Option Fault) :=
  if machine.mode = .running then do
    match ← machine.guardedFetchAndPerform with
    | .ok () next => return (next, none)
    | .error fault left => return (left.halt, some fault)
  else some (machine, none)

def guardedSingleStep (machine : Machine) : Option (Machine × Option Fault) :=
  if machine.mode = .paused then do
    let (stepped, fault) ← machine.resume.guardedStep
    let paused := stepped.pause
    return ({ paused with screen := paused.screen.markDirty }, fault)
  else machine.guardedStep

def guardedRun (machine : Machine) : Nat → Option (Machine × Option Fault)
  | 0 => some (machine, none)
  | n + 1 =>
    if machine.mode = .running then do
      match ← machine.guardedStep with
      | (stepped, none) => stepped.guardedRun n
      | (halted, some fault) => some (halted, some fault)
    else some (machine, none)

def guardedCycle (machine : Machine) : Option (Machine × Option Fault × List Notice) := do
  let (stopped, fault) ← machine.guardedRun machine.config.speed.toNat
  let ticked := stopped.tick
  let (clean, dirty) := ticked.takeDirty
  let fatal := fault.toList.map Notice.fatal
  let frame := if dirty then [Notice.frame clean.screen] else []
  return (clean, fault, fatal ++ Notice.sound ticked.sounds :: frame)

def guardedCreate (config : Config) (random : RandomSource) : Option Machine :=
  return { create config random with memory := ← Memory.guardedInitial }

def guardedReset (machine : Machine) : Option Machine :=
  return { machine.reset with memory := ← Memory.guardedInitial }

def guardedLoad (program : List UInt8) : GuardedCall Machine Unit :=
  if Memory.programCapacity < program.length then .fail (.programTooLarge program.length)
  else do
    .change guardedReset
    guardedOnMemory (Memory.guardedLoadProgram program)
    modify fun machine => { machine with mode := .running }

def guardedGiveKey (machine : Machine) (key : UInt8) : Option Machine :=
  match machine.mode with
  | .waiting x => do
    let written ← machine.guardedAssign x key
    return { written with keypad := machine.keypad.disarm, mode := .running }
  | _ => some machine

def guardedWithKeypad (machine : Machine) : Keypad × Option UInt8 → Option Machine
  | (keypad, none) => some { machine with keypad }
  | (keypad, some key) => { machine with keypad }.guardedGiveKey key

/-- The commands that are left out access nothing by number. -/
def guardedApply (machine : Machine) : Command → Option (Machine × Reply)
  | .load program => do
    let (loaded, fault) := settle (← machine.guardedLoad program)
    return (loaded, { fault })
  | .reset => return (← machine.guardedReset, {})
  | .step => do
    let (stepped, fault) ← machine.guardedStep
    return (stepped, { fault })
  | .singleStep => do
    let (stepped, fault) ← machine.guardedSingleStep
    return (stepped, { fault })
  | .cycle => do
    let (cycled, fault, notices) ← machine.guardedCycle
    return (cycled, { fault, notices })
  | .keyUp key => return (← machine.guardedWithKeypad (machine.keypad.release key), {})
  | .setKeys keys =>
    return (← machine.guardedWithKeypad (← machine.keypad.guardedUpdate keys), {})
  | .giveKey key =>
    return (← machine.guardedGiveKey key, { answer := some machine.isWaiting })
  | .togglePixel x y => do
    let (screen, erased) ← machine.screen.guardedToggle x y
    return ({ machine with screen }, { answer := some erased })
  | command => some (machine.apply command)

def guardedAfter (machine : Machine) : List Command → Option Machine
  | [] => some machine
  | command :: rest => do
    let (next, _) ← machine.guardedApply command
    next.guardedAfter rest

theorem guardedFetch_eq (machine : Machine) : machine.guardedFetch = settled machine.fetch :=
  machine.memory.guardedFetch_eq _

theorem guardedPerform_eq {machine : Machine} (hpc : machine.registers.pc.toNat + 2 < 2 ^ 16)
    (word address : UInt16) :
    machine.guardedPerform word address = some (machine.perform word address) := by
  rw [guardedPerform, perform]
  cases hdecode : decode word with
  | none => rfl
  | some decoded =>
    have hentry := (decode_eq_some_iff.mp hdecode).1
    dsimp only
    rw [Decoded.guardedText_eq hentry, lift_some_bind]
    exact guardedExecute_eq hentry hpc

theorem guardedFetchAndPerform_eq (machine : Machine) :
    machine.guardedFetchAndPerform = some machine.fetchAndPerform := by
  rw [guardedFetchAndPerform, fetchAndPerform, GuardedCall.get_bind, Call.get_bind,
    guardedFetch_eq]
  refine bind_eq_some (lift_settled _ _) fun word _ hword => ?_
  obtain ⟨hfetch, rfl⟩ := Call.lift_eq_ok_iff.mp hword
  -- Both bytes of the word are in memory, which leaves room for the advance and for a skip.
  obtain ⟨hpc, -⟩ := fetch_eq_ok_iff.mp hfetch
  have hroom : machine.registers.pc.toNat + 2 < 2 ^ 16 := by omega
  have hpast := toNat_pc_advance hroom
  refine bind_eq_some (change_eq_some (guardedAdvance_eq hroom)) fun _ advanced hadvanced => ?_
  obtain rfl : machine.advance = advanced := Call.eq_of_ok hadvanced
  exact guardedPerform_eq (by omega) word machine.registers.pc

theorem guardedStep_eq (machine : Machine) : machine.guardedStep = some machine.step := by
  rw [guardedStep, step]
  by_cases hrunning : machine.mode = .running
  · rw [if_pos hrunning, if_pos hrunning, guardedFetchAndPerform_eq]
    cases machine.fetchAndPerform <;> rfl
  · rw [if_neg hrunning, if_neg hrunning]

theorem guardedSingleStep_eq (machine : Machine) :
    machine.guardedSingleStep = some machine.singleStep := by
  rw [guardedSingleStep, singleStep, guardedStep_eq, guardedStep_eq]
  split <;> rfl

theorem guardedRun_eq (machine : Machine) (n : Nat) :
    machine.guardedRun n = some (machine.run n) := by
  induction n generalizing machine with
  | zero => rfl
  | succ n ih =>
    rw [guardedRun, run, guardedStep_eq]
    by_cases hrunning : machine.mode = .running
    · rw [if_pos hrunning, if_pos hrunning]
      obtain ⟨next, fault⟩ := machine.step
      cases fault with
      | none => exact ih next
      | some fault => rfl
    · rw [if_neg hrunning, if_neg hrunning]

theorem guardedCycle_eq (machine : Machine) : machine.guardedCycle = some machine.cycle := by
  rw [guardedCycle, guardedRun_eq]
  rfl

theorem guardedCreate_eq (config : Config) (random : RandomSource) :
    guardedCreate config random = some (create config random) := by
  rw [guardedCreate, Memory.guardedInitial_eq, Option.bind_eq_bind, Option.bind_some]
  rfl

theorem guardedReset_eq (machine : Machine) : machine.guardedReset = some machine.reset := by
  rw [guardedReset, Memory.guardedInitial_eq, Option.bind_eq_bind, Option.bind_some, reset]
  rfl

theorem guardedLoad_eq (machine : Machine) (program : List UInt8) :
    machine.guardedLoad program = some (machine.load program) := by
  rw [guardedLoad, load]
  by_cases hlarge : Memory.programCapacity < program.length
  · rw [if_pos hlarge, if_pos hlarge]
    rfl
  · rw [if_neg hlarge, if_neg hlarge]
    refine bind_eq_some (change_eq_some machine.guardedReset_eq) fun _ fresh _ => ?_
    refine bind_eq_some ?_ fun _ _ _ => rfl
    exact GuardedCall.on_eq_some (fresh.memory.guardedLoadProgram_eq program)

theorem guardedGiveKey_eq (machine : Machine) (key : UInt8) :
    machine.guardedGiveKey key = some (machine.giveKey key) := by
  rw [guardedGiveKey, giveKey]
  cases machine.mode with
  | waiting x =>
    simp only [guardedAssign_eq]
    rfl
  | _ => rfl

theorem guardedWithKeypad_eq (machine : Machine) (event : Keypad × Option UInt8) :
    machine.guardedWithKeypad event = some (machine.withKeypad event) := by
  obtain ⟨keypad, fired⟩ := event
  cases fired with
  | none => rfl
  | some key => exact guardedGiveKey_eq _ key

theorem guardedApply_eq (machine : Machine) (command : Command) :
    machine.guardedApply command = some (machine.apply command) := by
  cases command with
  | load program =>
    rw [guardedApply, guardedLoad_eq]
    rfl
  | reset =>
    rw [guardedApply, guardedReset_eq]
    rfl
  | step =>
    rw [guardedApply, guardedStep_eq]
    rfl
  | singleStep =>
    rw [guardedApply, guardedSingleStep_eq]
    rfl
  | cycle =>
    rw [guardedApply, guardedCycle_eq]
    rfl
  | keyUp key =>
    rw [guardedApply, guardedWithKeypad_eq]
    rfl
  | setKeys keys =>
    simp only [guardedApply, Keypad.guardedUpdate_eq, Option.bind_eq_bind, Option.bind_some,
      guardedWithKeypad_eq]
    rfl
  | giveKey key =>
    rw [guardedApply, guardedGiveKey_eq]
    rfl
  | togglePixel x y =>
    rw [guardedApply, Screen.guardedToggle_eq]
    rfl
  | _ => rfl

theorem guardedAfter_eq (machine : Machine) (commands : List Command) :
    machine.guardedAfter commands = some (machine.after commands) := by
  induction commands generalizing machine with
  | nil => rfl
  | cons command rest ih =>
    rw [guardedAfter, guardedApply_eq, after_cons]
    exact ih (machine.apply command).1

end Machine

end Chip8
