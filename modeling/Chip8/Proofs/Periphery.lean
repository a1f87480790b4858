import Chip8.Proofs.KeyWait

/-!
# What a step reads

The timers, the mark on the picture, the configuration and the random source stand around the
machine that a program computes with. A step overwrites parts of them, but only a few instructions
read one: a shift and a block transfer the dialect, a random number the source, and one instruction
the delay timer. Two machines that differ in these parts alone take the same step, unless the
instruction there finds a difference.
-/

namespace Chip8

/-- The parts of a machine that only few instructions read. -/
structure Periphery where
  delay : UInt8
  sound : UInt8
  dirty : Bool
  config : Config
  random : RandomSource

theorem Screen.draw_of_pixels {screen other : Screen} (hpixels : screen.pixels = other.pixels)
    (x y : Nat) (rows : List UInt8) : screen.draw x y rows = other.draw x y rows := by
  obtain ⟨pixels, dirty⟩ := screen
  obtain ⟨_, dirty'⟩ := other
  obtain rfl : pixels = _ := hpixels
  unfold draw
  cases sprite x y rows <;> rfl

namespace Machine

def periphery (machine : Machine) : Periphery where
  delay := machine.registers.delay
  sound := machine.registers.sound
  dirty := machine.screen.dirty
  config := machine.config
  random := machine.random

def withPeriphery (machine : Machine) (periphery : Periphery) : Machine :=
  { machine with
    registers :=
      { machine.registers with delay := periphery.delay, sound := periphery.sound }
    screen := { machine.screen with dirty := periphery.dirty }
    config := periphery.config
    random := periphery.random }

/-- The instruction reads the same from another periphery as from the machine's own. -/
def FindsSame (machine : Machine) (periphery : Periphery) : Instruction → Prop
  | .arithmetic op x y =>
    op.result machine.config.dialect.shift (machine.registers.read x) (machine.registers.read y) =
      op.result periphery.config.dialect.shift (machine.registers.read x) (machine.registers.read y)
  | .random _ mask => machine.random.next.1 &&& mask = periphery.random.next.1 &&& mask
  | .readDelay _ => machine.registers.delay = periphery.delay
  | .storeRegisters x | .loadRegisters x =>
    machine.config.dialect.index.amount (UInt16.ofNat x) =
      periphery.config.dialect.index.amount (UInt16.ofNat x)
  | _ => True

end Machine

/-- What an instruction of a machine makes of a periphery, its own or another. -/
def Periphery.after (periphery : Periphery) (machine : Machine) : Instruction → Periphery
  | .clearScreen | .draw _ _ _ => { periphery with dirty := true }
  | .random _ _ => { periphery with random := periphery.random.next.2 }
  | .setDelay x => { periphery with delay := machine.registers.read x }
  | .setSound x => { periphery with sound := machine.registers.read x }
  | _ => periphery

namespace Machine

variable {machine : Machine} {periphery : Periphery} {instruction : Instruction}

theorem read_withPeriphery (machine : Machine) (periphery : Periphery) (x : Register) :
    (machine.withPeriphery periphery).registers.read x = machine.registers.read x := rfl

theorem stepIndex_withPeriphery (machine : Machine) {x : Register}
    (hamount : machine.config.dialect.index.amount (UInt16.ofNat x) =
      periphery.config.dialect.index.amount (UInt16.ofNat x)) :
    (machine.withPeriphery periphery).stepIndex x =
      (machine.stepIndex x).withPeriphery periphery := by
  unfold stepIndex
  rw [hamount]
  rfl

theorem executeFault_withPeriphery_iff {fault : Fault} :
    (machine.withPeriphery periphery).ExecuteFault instruction fault ↔
      machine.ExecuteFault instruction fault := by
  constructor <;> intro hfault <;> cases hfault <;> constructor <;> assumption

/-- An instruction that finds the same in a periphery does the same with it. -/
theorem eq_of_execute_withPeriphery {next other : Machine}
    (hsame : machine.FindsSame periphery instruction)
    (hnext : machine.execute instruction = .ok () next)
    (hother : (machine.withPeriphery periphery).execute instruction = .ok () other) :
    other = next.withPeriphery (periphery.after machine instruction) := by
  cases instruction with
  | ret =>
    obtain ⟨target, stack, hpop, rfl⟩ := eq_of_execute_ret hnext
    obtain ⟨_, _, hpop', rfl⟩ := eq_of_execute_ret hother
    obtain ⟨rfl, rfl⟩ := EStateM.Result.ok.inj (hpop.symm.trans hpop')
    rfl
  | call target =>
    obtain ⟨stack, hpush, rfl⟩ := eq_of_execute_call hnext
    obtain ⟨_, hpush', rfl⟩ := eq_of_execute_call hother
    obtain rfl := Call.eq_of_ok (hpush.symm.trans hpush')
    rfl
  | skip condition =>
    have hholds : (machine.withPeriphery periphery).holds condition = machine.holds condition := by
      cases condition <;> rfl
    obtain rfl := eq_of_execute_skip hnext
    obtain rfl := eq_of_execute_skip hother
    rw [hholds]
    split <;> rfl
  | arithmetic op x y =>
    obtain rfl := Call.eq_of_ok hnext
    obtain rfl := Call.eq_of_ok hother
    have hresult : op.result (machine.withPeriphery periphery).config.dialect.shift
        (machine.registers.read x) (machine.registers.read y) = op.result
          machine.config.dialect.shift (machine.registers.read x) (machine.registers.read y) :=
      hsame.symm
    simp only [read_withPeriphery, hresult]
    generalize op.result _ _ _ = outcome
    obtain ⟨value, flag⟩ := outcome
    cases flag <;> rfl
  | random x mask =>
    obtain rfl := Call.eq_of_ok hnext
    obtain rfl := Call.eq_of_ok hother
    have hbyte : (machine.withPeriphery periphery).random.next.1 &&& mask =
        machine.random.next.1 &&& mask := hsame.symm
    simp only [hbyte]
    rfl
  | draw x y rows =>
    obtain ⟨bytes, hbytes, rfl⟩ := eq_of_draw hnext
    obtain ⟨_, hbytes', rfl⟩ := eq_of_draw hother
    obtain rfl := Except.ok.inj (hbytes.symm.trans hbytes')
    have hpixels : (machine.withPeriphery periphery).screen.pixels = machine.screen.pixels := rfl
    rw [read_withPeriphery, read_withPeriphery, Screen.draw_of_pixels hpixels]
    rfl
  | readDelay x =>
    obtain rfl := Call.eq_of_ok hnext
    obtain rfl := Call.eq_of_ok hother
    have hdelay : (machine.withPeriphery periphery).registers.delay = machine.registers.delay :=
      hsame.symm
    simp only [hdelay]
    rfl
  | storeDecimal x =>
    obtain rfl := eq_of_execute_storeDecimal hnext
    obtain rfl := eq_of_execute_storeDecimal hother
    rfl
  | storeRegisters x =>
    obtain rfl := eq_of_execute_storeRegisters hnext
    obtain rfl := eq_of_execute_storeRegisters hother
    let stored := { machine with
      memory := machine.memory.write machine.registers.index.toNat (machine.registers.readBlock x) }
    exact stepIndex_withPeriphery stored hsame
  | loadRegisters x =>
    obtain ⟨bytes, hbytes, rfl⟩ := eq_of_execute_loadRegisters hnext
    obtain ⟨_, hbytes', rfl⟩ := eq_of_execute_loadRegisters hother
    obtain rfl := Except.ok.inj (hbytes.symm.trans hbytes')
    let loaded := machine.withRegisters (machine.registers.writeBlock bytes)
    exact stepIndex_withPeriphery loaded hsame
  | _ =>
    obtain rfl := Call.eq_of_ok hnext
    obtain rfl := Call.eq_of_ok hother
    rfl

/-- What an instruction finds in a periphery decides what it does, but not whether it fails. -/
theorem execute_withPeriphery
    (hsame : ∀ next, machine.execute instruction = .ok () next →
      machine.FindsSame periphery instruction) :
    (machine.withPeriphery periphery).execute instruction =
      match machine.execute instruction with
      | .ok () next => .ok () (next.withPeriphery (periphery.after machine instruction))
      | .error fault left => .error fault (left.withPeriphery periphery) := by
  cases hnext : machine.execute instruction with
  | error fault left =>
    obtain ⟨hfault, rfl⟩ := execute_eq_error_iff.mp hnext
    exact execute_eq_error_iff.mpr ⟨executeFault_withPeriphery_iff.mpr hfault, rfl⟩
  | ok _ next =>
    cases hother : (machine.withPeriphery periphery).execute instruction with
    | error fault left =>
      have hfault := executeFault_withPeriphery_iff.mp (execute_eq_error_iff.mp hother).1
      rw [execute_eq_error_iff.mpr ⟨hfault, rfl⟩] at hnext
      contradiction
    | ok _ other =>
      exact congrArg (EStateM.Result.ok ())
        (eq_of_execute_withPeriphery (hsame next hnext) hnext hother)

/-- Of all that is around the machine, instructions read these three. -/
theorem findsSame_of_eq
    (hdelay : ∀ x, instruction = .readDelay x → machine.registers.delay = periphery.delay)
    (hdialect : machine.config.dialect = periphery.config.dialect)
    (hrandom : machine.random = periphery.random) : machine.FindsSame periphery instruction := by
  cases instruction with
  | readDelay x => exact hdelay x rfl
  | arithmetic | storeRegisters | loadRegisters => simp only [FindsSame, hdialect]
  | random => simp only [FindsSame, hrandom]
  | _ => trivial

theorem periphery_of_execute {next : Machine} (hnext : machine.execute instruction = .ok () next) :
    next.periphery = machine.periphery.after machine instruction := by
  have hfinds : machine.FindsSame machine.periphery instruction :=
    findsSame_of_eq (fun _ _ => rfl) rfl rfl
  have hown : next = next.withPeriphery (machine.periphery.after machine instruction) :=
    eq_of_execute_withPeriphery hfinds hnext hnext
  exact congrArg periphery hown

/-- The machines are the same but for their peripheries, and those are related. -/
def SameUpTo (Related : Periphery → Periphery → Prop) (machine other : Machine) : Prop :=
  ∃ periphery, other = machine.withPeriphery periphery ∧ Related machine.periphery periphery

theorem withPeriphery_pause (machine : Machine) (periphery : Periphery) :
    (machine.withPeriphery periphery).pause = machine.pause.withPeriphery periphery := by
  obtain ⟨memory, registers, screen, keypad, mode, config, random⟩ := machine
  cases mode <;> rfl

theorem withPeriphery_resume (machine : Machine) (periphery : Periphery) :
    (machine.withPeriphery periphery).resume = machine.resume.withPeriphery periphery := by
  obtain ⟨memory, registers, screen, keypad, mode, config, random⟩ := machine
  cases mode <;> rfl

theorem withPeriphery_togglePause (machine : Machine) (periphery : Periphery) :
    (machine.withPeriphery periphery).togglePause =
      machine.togglePause.withPeriphery periphery := by
  obtain ⟨memory, registers, screen, keypad, mode, config, random⟩ := machine
  cases mode <;> rfl

theorem withPeriphery_giveKey (machine : Machine) (periphery : Periphery) (key : UInt8) :
    (machine.withPeriphery periphery).giveKey key =
      (machine.giveKey key).withPeriphery periphery := by
  obtain ⟨memory, registers, screen, keypad, mode, config, random⟩ := machine
  cases mode <;> rfl

theorem withPeriphery_withKeypad (machine : Machine) (periphery : Periphery)
    (event : Keypad × Option UInt8) :
    (machine.withPeriphery periphery).withKeypad event =
      (machine.withKeypad event).withPeriphery periphery := by
  obtain ⟨keypad, fired⟩ := event
  cases fired with
  | none => rfl
  | some key => exact withPeriphery_giveKey { machine with keypad } periphery key

/-- What does the same with every periphery leaves it. -/
theorem SameUpTo.event {other : Machine} {Related : Periphery → Periphery → Prop}
    {event : Machine → Machine}
    (hevent : ∀ m periphery, event (m.withPeriphery periphery) =
      (event m).withPeriphery periphery)
    (hsame : machine.SameUpTo Related other) :
    (event machine).SameUpTo Related (event other) := by
  obtain ⟨periphery, rfl, hrelated⟩ := hsame
  have hown : event machine = (event machine).withPeriphery machine.periphery :=
    hevent machine machine.periphery
  refine ⟨periphery, hevent machine periphery, ?_⟩
  rw [hown]
  exact hrelated

/-- A step that succeeds finds the same in all related peripheries. -/
def Overlooks (Related : Periphery → Periphery → Prop) (machine : Machine) : Prop :=
  machine.step.2 = none → ∀ instruction, machine.Performs instruction →
    ∀ periphery, Related machine.periphery periphery → machine.FindsSame periphery instruction

end Machine

/-- Peripheries that are related stay so, whatever instruction changes both. -/
def Periphery.Kept (Related : Periphery → Periphery → Prop) : Prop :=
  ∀ machine instruction own other, Related own other →
    Related (own.after machine instruction) (other.after machine instruction)

namespace Machine

variable {machine other : Machine} {Related : Periphery → Periphery → Prop}

/-- Machines that are the same but for what a step overlooks take the same step. -/
theorem SameUpTo.step (hkept : Periphery.Kept Related) (hoverlooks : machine.Overlooks Related)
    (hsame : machine.SameUpTo Related other) :
    machine.step.1.SameUpTo Related other.step.1 ∧ machine.step.2 = other.step.2 := by
  obtain ⟨periphery, rfl, hrelated⟩ := hsame
  by_cases hrunning : machine.mode = .running
  · have hrunning' : (machine.withPeriphery periphery).mode = .running := hrunning
    obtain hend | ⟨word, hword, hunknown⟩ | ⟨instruction, hperforms⟩ := machine.fetch_cases
    · rw [step_of_pc_past_end hrunning hend, step_of_pc_past_end hrunning' hend]
      exact ⟨⟨periphery, rfl, hrelated⟩, rfl⟩
    · have hword' : (machine.withPeriphery periphery).Fetches word := hword
      rw [step_of_unknown hrunning hword hunknown, step_of_unknown hrunning' hword' hunknown]
      exact ⟨⟨periphery, rfl, hrelated⟩, rfl⟩
    · have hperforms' : (machine.withPeriphery periphery).Performs instruction := hperforms
      have hadvance : (machine.withPeriphery periphery).advance =
          machine.advance.withPeriphery periphery := rfl
      have hexecute := @execute_withPeriphery machine.advance periphery instruction
        fun next hnext => by
          have hsucceeds : machine.step.2 = none := by
            rw [step_of_execute_eq_ok hrunning hperforms hnext]
          have hfinds := hoverlooks hsucceeds instruction hperforms periphery hrelated
          cases instruction <;> exact hfinds
      rw [step_of_performs hrunning hperforms, step_of_performs hrunning' hperforms', hadvance,
        hexecute]
      cases hnext : machine.advance.execute instruction with
      | error fault left => exact ⟨⟨periphery, rfl, hrelated⟩, rfl⟩
      | ok _ next =>
        refine ⟨⟨_, rfl, ?_⟩, rfl⟩
        rw [periphery_of_execute hnext]
        exact hkept _ _ _ _ hrelated
  · have hrunning' : (machine.withPeriphery periphery).mode ≠ .running := hrunning
    rw [step_of_not_running hrunning, step_of_not_running hrunning']
    exact ⟨⟨periphery, rfl, hrelated⟩, rfl⟩

theorem SameUpTo.run (hkept : Periphery.Kept Related) {n : Nat}
    (hoverlooks : ∀ m ∈ machine.visited n, m.Overlooks Related)
    (hsame : machine.SameUpTo Related other) :
    (machine.run n).1.SameUpTo Related (other.run n).1 ∧ (machine.run n).2 = (other.run n).2 := by
  induction n generalizing machine other with
  | zero => exact ⟨hsame, rfl⟩
  | succ n ih =>
    by_cases hrunning : machine.mode = .running
    · rw [visited_succ hrunning] at hoverlooks
      obtain ⟨hfirst, hrest⟩ := List.forall_mem_cons.mp hoverlooks
      obtain ⟨hnext, hfault⟩ := hsame.step hkept hfirst
      obtain ⟨hlast, hlater⟩ := ih hrest hnext
      rw [run_succ, run_succ, hfault, hlater]
      exact ⟨hlast, rfl⟩
    · have hrunning' : other.mode ≠ .running := by
        obtain ⟨periphery, rfl, -⟩ := hsame
        exact hrunning
      rw [run_of_not_running hrunning, run_of_not_running hrunning']
      exact ⟨hsame, rfl⟩

end Machine

end Chip8
