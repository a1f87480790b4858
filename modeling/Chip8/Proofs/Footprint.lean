import Chip8.Proofs.Picture
import Chip8.Proofs.Subroutine

/-!
# What an instruction may change

Each instruction leads to one next instruction, and outside of a few places that it names it changes
nothing. Only jumps, calls, returns and skips move the program counter otherwise than to the
instruction that follows in memory.
-/

namespace Chip8

/-- The operations that write a flag. -/
def Arithmetic.SetsFlag : Arithmetic → Prop
  | add | sub | subFrom | shiftRight | shiftLeft => True
  | load | or | and | xor => False

/-- The registers that an instruction writes. -/
def Instruction.Writes : Instruction → Register → Prop
  | .loadByte x _, y | .addByte x _, y | .random x _, y | .readDelay x, y => y = x
  | .arithmetic op x _, y => y = x ∨ op.SetsFlag ∧ y = .vf
  | .draw _ _ _, y => y = .vf
  | .loadRegisters x, y => y ≤ x
  | _, _ => False

/-- How far a block transfer of V0 to Vx moves the index register. -/
def IndexStep.distance (x : Register) : IndexStep → Nat
  | unchanged => 0
  | byX => x
  | byXPlusOne => x + 1

/-- A key of the pad that is down. -/
def Keypad.Holds (keypad : Keypad) (key : UInt8) : Prop :=
  ∃ hkey : key.toNat < 16, keypad.pressed[key.toNat] = true

theorem Keypad.isPressed_iff {keypad : Keypad} {key : UInt8} :
    keypad.isPressed key = true ↔ keypad.Holds key := by
  unfold isPressed Holds
  by_cases hkey : key.toNat < 16
  · simp [hkey]
  · simp [hkey]

theorem Arithmetic.setsFlag_of_result {op : Arithmetic} {source : ShiftSource}
    {vx vy value flag : UInt8} (hresult : op.result source vx vy = (value, some flag)) :
    op.SetsFlag := by
  cases op with
  | load | or | and | xor => cases hresult
  | _ => trivial

theorem IndexStep.toNat_amount (step : IndexStep) (x : Register) :
    (step.amount (UInt16.ofNat x)).toNat = step.distance x := by
  have hx := x.isLt
  have hword : (UInt16.ofNat x).toNat = x := UInt16.toNat_ofNat_of_lt' (by rw [UInt16.size]; omega)
  cases step with
  | unchanged => rfl
  | byX => exact hword
  | byXPlusOne =>
    have hone : (1 : UInt16).toNat = 1 := rfl
    rw [amount, UInt16.toNat_add, hword, hone, distance]
    omega

namespace Registers

variable {registers : Registers} {x y : Register}

theorem read_writeResult_of_ne {value : UInt8} {flag : Option UInt8} (hne : y ≠ x)
    (hflag : flag ≠ none → y ≠ .vf) :
    (registers.writeResult x value flag).read y = registers.read y := by
  cases flag with
  | none => exact read_write_of_ne hne
  | some flag => exact (read_write_of_ne hne).trans (read_write_of_ne (hflag (by simp)))

theorem read_writeBlock_of_le {bytes : List UInt8} (hlength : bytes.length ≤ y) :
    (registers.writeBlock bytes).read y = registers.read y := by
  have hread : (registers.writeBlock bytes).read y = bytes.getD y (registers.read y) :=
    Vector.getElem_mapIdx _
  rw [hread, List.getD_eq_getElem?_getD, List.getElem?_eq_none hlength, Option.getD_none]

end Registers

namespace Machine

/-- The condition of a skip, on the registers and the keypad before it. -/
def Meets (machine : Machine) : Condition → Prop
  | .equalByte x byte => machine.registers.read x = byte
  | .differentByte x byte => machine.registers.read x ≠ byte
  | .equal x y => machine.registers.read x = machine.registers.read y
  | .different x y => machine.registers.read x ≠ machine.registers.read y
  | .pressed x => machine.keypad.Holds (machine.registers.read x)
  | .released x => ¬machine.keypad.Holds (machine.registers.read x)

/-- The addresses that an instruction writes. -/
def Stores (machine : Machine) : Instruction → Nat → Prop
  | .storeDecimal _, k =>
    machine.registers.index.toNat ≤ k ∧ k ≤ machine.registers.index.toNat + 2
  | .storeRegisters x, k =>
    machine.registers.index.toNat ≤ k ∧ k ≤ machine.registers.index.toNat + x
  | _, _ => False

/-- The value of the index register after an instruction. -/
def indexAfter (machine : Machine) : Instruction → Nat
  | .loadIndex address => address
  | .addIndex x => (machine.registers.index.toNat + (machine.registers.read x).toNat) % 2 ^ 16
  | .loadGlyph x => 5 * (machine.registers.read x).toNat
  | .storeRegisters x | .loadRegisters x =>
    (machine.registers.index.toNat + machine.config.dialect.index.distance x) % 2 ^ 16
  | _ => machine.registers.index.toNat

/-- Where an instruction leads: the program counter and the live return addresses after it. -/
def LeadsTo (machine next : Machine) : Instruction → Prop
  | .jump target => next.registers.pc.toNat = target ∧ next.calls = machine.calls
  | .call target =>
    next.registers.pc.toNat = target ∧
      ∃ back : UInt16, back.toNat = machine.registers.pc.toNat + 2 ∧
        next.calls = machine.calls ++ [back]
  | .jumpOffset base =>
    next.registers.pc.toNat = base + (machine.registers.read .v0).toNat ∧
      next.calls = machine.calls
  | .ret => machine.calls = next.calls ++ [next.registers.pc]
  | .skip condition =>
    (machine.Meets condition → next.registers.pc.toNat = machine.registers.pc.toNat + 4) ∧
      (¬machine.Meets condition → next.registers.pc.toNat = machine.registers.pc.toNat + 2) ∧
      next.calls = machine.calls
  | _ =>
    next.registers.pc.toNat = machine.registers.pc.toNat + 2 ∧ next.calls = machine.calls

/-- Apart from the control flow, an instruction leaves what it does not name. -/
structure Frames (machine next : Machine) (instruction : Instruction) : Prop where
  memory : ∀ (k : Nat) (hk : k < 4096), ¬machine.Stores instruction k →
    next.memory.bytes[k] = machine.memory.bytes[k] := by intros; rfl
  screen : ¬instruction.Draws → next.screen = machine.screen := by intros; rfl
  v : ∀ y, ¬instruction.Writes y → next.registers.read y = machine.registers.read y := by
    intros; rfl
  delay : (∀ x, instruction ≠ .setDelay x) → next.registers.delay = machine.registers.delay := by
    intros; rfl
  sound : (∀ x, instruction ≠ .setSound x) → next.registers.sound = machine.registers.sound := by
    intros; rfl
  index : next.registers.index.toNat = machine.indexAfter instruction := by rfl
  random : (∀ x mask, instruction ≠ .random x mask) → next.random = machine.random := by
    intros; rfl
  wait : (∀ x, instruction ≠ .awaitKey x) →
    next.mode = machine.mode ∧ next.keypad.armed = machine.keypad.armed := by
      intros; exact ⟨rfl, rfl⟩
  pressed : next.keypad.pressed = machine.keypad.pressed := by rfl
  config : next.config = machine.config := by rfl

variable {machine next : Machine} {instruction : Instruction}

theorem holds_iff {condition : Condition} :
    machine.holds condition = true ↔ machine.Meets condition := by
  cases condition with
  | pressed x => exact Keypad.isPressed_iff
  | released x => simp [holds, Meets, ← Keypad.isPressed_iff]
  | _ => simp [holds, Meets]

theorem toNat_index_stepIndex (machine : Machine) (x : Register) :
    (machine.stepIndex x).registers.index.toNat =
      (machine.registers.index.toNat + machine.config.dialect.index.distance x) % 2 ^ 16 := by
  have hstep : (machine.stepIndex x).registers.index =
      machine.registers.index + machine.config.dialect.index.amount (UInt16.ofNat x) := rfl
  rw [hstep, UInt16.toNat_add, IndexStep.toNat_amount]

/-- Five times a byte is no more than the index register holds. -/
theorem toNat_glyph (value : UInt8) : (value.toUInt16 * 5).toNat = 5 * value.toNat := by
  have hvalue := value.toNat_lt
  have hfive : (5 : UInt16).toNat = 5 := rfl
  rw [UInt16.toNat_mul, UInt8.toNat_toUInt16, hfive]
  omega

theorem frames_of_result {op : Arithmetic} {x y : Register} {source : ShiftSource}
    {vx vy value : UInt8} {flag : Option UInt8} (hresult : op.result source vx vy = (value, flag)) :
    machine.Frames
      (machine.advance.withRegisters (machine.advance.registers.writeResult x value flag))
      (.arithmetic op x y) := by
  have hv : ∀ z, ¬(Instruction.arithmetic op x y).Writes z →
      (machine.registers.writeResult x value flag).read z = machine.registers.read z := by
    intro z hz
    obtain ⟨hx, hvf⟩ := not_or.mp hz
    refine Registers.read_writeResult_of_ne hx fun hflag heq => ?_
    obtain ⟨bit, rfl⟩ := Option.ne_none_iff_exists'.mp hflag
    exact hvf ⟨Arithmetic.setsFlag_of_result hresult, heq⟩
  cases flag with
  | none => exact { v := hv }
  | some bit => exact { v := hv }

theorem frames_of_execute (hnext : machine.advance.execute instruction = .ok () next) :
    machine.Frames next instruction := by
  cases instruction with
  | clearScreen =>
    obtain rfl := Call.eq_of_ok hnext
    exact { screen := fun hkept => absurd trivial hkept }
  | ret =>
    obtain ⟨target, stack, -, rfl⟩ := eq_of_execute_ret hnext
    exact {}
  | call target =>
    obtain ⟨stack, -, rfl⟩ := eq_of_execute_call hnext
    exact {}
  | skip condition =>
    obtain rfl := eq_of_execute_skip hnext
    split <;> exact {}
  | arithmetic op x y =>
    obtain rfl := Call.eq_of_ok hnext
    exact frames_of_result rfl
  | random x mask =>
    obtain rfl := Call.eq_of_ok hnext
    exact { v := fun y hy => Registers.read_write_of_ne hy
            random := fun hkept => absurd rfl (hkept x mask) }
  | draw x y rows =>
    obtain ⟨sprite, -, rfl⟩ := eq_of_draw hnext
    exact { screen := fun hkept => absurd trivial hkept
            v := fun z hz => Registers.read_write_of_ne hz }
  | awaitKey x =>
    obtain rfl := Call.eq_of_ok hnext
    exact { wait := fun hkept => absurd rfl (hkept x) }
  | setDelay x =>
    obtain rfl := Call.eq_of_ok hnext
    exact { delay := fun hkept => absurd rfl (hkept x) }
  | setSound x =>
    obtain rfl := Call.eq_of_ok hnext
    exact { sound := fun hkept => absurd rfl (hkept x) }
  | loadIndex address =>
    obtain rfl := Call.eq_of_ok hnext
    have haddress := address.isLt
    exact { index := UInt16.toNat_ofNat_of_lt' (by rw [UInt16.size]; omega) }
  | addIndex x =>
    obtain rfl := Call.eq_of_ok hnext
    exact { index := UInt16.toNat_add _ _ }
  | loadGlyph x =>
    obtain rfl := Call.eq_of_ok hnext
    exact { index := toNat_glyph _ }
  | storeDecimal x =>
    obtain rfl := eq_of_execute_storeDecimal hnext
    refine { memory := fun k hk hkept => ?_ }
    refine Memory.getElem_bytes_write_of_outside hk fun hwithin => hkept ?_
    exact ⟨hwithin.1, Nat.le_of_lt_succ hwithin.2⟩
  | storeRegisters x =>
    obtain rfl := eq_of_execute_storeRegisters hnext
    refine { memory := fun k hk hkept => ?_, index := toNat_index_stepIndex _ x }
    refine Memory.getElem_bytes_write_of_outside hk fun hwithin => hkept ?_
    rw [Registers.length_readBlock] at hwithin
    exact ⟨hwithin.1, Nat.le_of_lt_succ hwithin.2⟩
  | loadRegisters x =>
    obtain ⟨bytes, hbytes, rfl⟩ := eq_of_execute_loadRegisters hnext
    have hx := x.isLt
    have hlength : bytes.length = x + 1 := Memory.length_of_slice (by omega) hbytes
    refine { v := fun y hy => ?_, index := toNat_index_stepIndex _ x }
    exact Registers.read_writeBlock_of_le (hlength ▸ Nat.lt_of_not_le hy)
  | loadByte | addByte | readDelay =>
    obtain rfl := Call.eq_of_ok hnext
    exact { v := fun y hy => Registers.read_write_of_ne hy }
  | jump | jumpOffset =>
    obtain rfl := Call.eq_of_ok hnext
    exact {}

theorem calls_eq_of_control {control : UInt16 × CallStack} (hcontrol : next.control = control) :
    next.registers.pc = control.1 ∧ next.calls = control.2.live := by
  subst hcontrol
  exact ⟨rfl, rfl⟩

theorem toNat_ofNat_target (target : Fin 4096) : (UInt16.ofNat target).toNat = target := by
  have htarget := target.isLt
  exact UInt16.toNat_ofNat_of_lt' (by rw [UInt16.size]; omega)

theorem leadsTo_of_execute (hpc : machine.registers.pc.toNat + 1 < 4096)
    (hnext : machine.advance.execute instruction = .ok () next) :
    machine.LeadsTo next instruction := by
  have hmoves := moves_of_execute hnext
  have hadvance : machine.advance.registers.pc.toNat = machine.registers.pc.toNat + 2 :=
    toNat_pc_advance (by omega)
  cases instruction with
  | ret => exact CallStack.live_pop hmoves
  | jump target =>
    obtain ⟨hto, hcalls⟩ := calls_eq_of_control hmoves
    exact ⟨by rw [hto, toNat_ofNat_target], hcalls⟩
  | call target =>
    obtain ⟨stack, hpush, hcontrol⟩ := hmoves
    obtain ⟨hto, hcalls⟩ := calls_eq_of_control hcontrol
    refine ⟨by rw [hto, toNat_ofNat_target], machine.advance.registers.pc, hadvance, ?_⟩
    rw [hcalls, CallStack.live_push hpush]
    rfl
  | jumpOffset base =>
    obtain ⟨hto, hcalls⟩ := calls_eq_of_control hmoves
    refine ⟨?_, hcalls⟩
    have hbase := base.isLt
    have hoffset := (machine.registers.read .v0).toNat_lt
    have hsum : next.registers.pc =
        UInt16.ofNat base + (machine.registers.read .v0).toUInt16 := hto
    rw [hsum, UInt16.toNat_add, toNat_ofNat_target, UInt8.toNat_toUInt16]
    exact Nat.mod_eq_of_lt (by omega)
  | skip condition =>
    by_cases hmet : machine.Meets condition
    · have hholds : machine.advance.holds condition = true := holds_iff.mpr hmet
      rw [Moves, if_pos hholds] at hmoves
      obtain ⟨hto, hcalls⟩ := calls_eq_of_control hmoves
      have hskip : machine.advance.advance.registers.pc.toNat = machine.registers.pc.toNat + 4 := by
        rw [toNat_pc_advance (by omega), hadvance]
      refine ⟨fun _ => ?_, fun hnot => absurd hmet hnot, hcalls⟩
      rw [hto]
      exact hskip
    · have hholds : ¬machine.advance.holds condition = true := fun hholds =>
        hmet (holds_iff.mp hholds)
      rw [Moves, if_neg hholds] at hmoves
      obtain ⟨hto, hcalls⟩ := calls_eq_of_control hmoves
      refine ⟨fun hnot => absurd hnot hmet, fun _ => ?_, hcalls⟩
      rw [hto]
      exact hadvance
  | _ =>
    obtain ⟨hto, hcalls⟩ := calls_eq_of_control hmoves
    refine ⟨?_, hcalls⟩
    rw [hto]
    exact hadvance

/-- **Footprint and successor.** A step that succeeds performs an instruction, which leads to its
one successor and changes only what it names. -/
theorem step_within_footprint (hrunning : machine.mode = .running)
    (hsucceeds : machine.step.2 = none) :
    ∃ instruction, machine.Performs instruction ∧ machine.LeadsTo machine.step.1 instruction ∧
      machine.Frames machine.step.1 instruction := by
  obtain hend | ⟨word, hword, hunknown⟩ | ⟨instruction, hperforms⟩ := machine.fetch_cases
  · rw [step_of_pc_past_end hrunning hend] at hsucceeds
    contradiction
  · rw [step_of_unknown hrunning hword hunknown] at hsucceeds
    contradiction
  · obtain ⟨word, ⟨hpc, -⟩, -⟩ := id hperforms
    cases hnext : machine.advance.execute instruction with
    | error fault left =>
      rw [step_of_performs hrunning hperforms, hnext] at hsucceeds
      contradiction
    | ok _ next =>
      rw [step_of_execute_eq_ok hrunning hperforms hnext]
      exact ⟨instruction, hperforms, leadsTo_of_execute hpc hnext, frames_of_execute hnext⟩

/-- A new machine that is about to store V0 to V3 at address zero and to move the index register
past them. -/
def blockStorer : Machine := boot (.ofPreset .legacy) [0xF3, 0x55]

theorem blockStorer_performs :
    blockStorer.mode = .running ∧ blockStorer.Performs (.storeRegisters 3) ∧
      blockStorer.registers = .initial ∧ blockStorer.config.dialect = ⟨.vy, .byXPlusOne⟩ := by
  have hload : (create (.ofPreset .legacy) (.ofList [])).load [0xF3, 0x55] = .ok () blockStorer :=
    load_boot (by decide)
  have hperforms : blockStorer.Performs (.storeRegisters 3) :=
    ⟨0xF355, fetches_of_load hload (by decide), by decide⟩
  refine ⟨?_, hperforms, ?_, ?_⟩ <;> rw [load_eq_ok hload] <;> rfl

theorem blockStorer_footprint :
    blockStorer.mode = .running ∧ blockStorer.step.2 = none ∧
      let next := blockStorer.step.1
      next.registers.pc.toNat = 0x202 ∧ next.registers.index.toNat = 4 ∧
        next.memory.bytes[4] = blockStorer.memory.bytes[4] ∧
        next.registers.delay = blockStorer.registers.delay := by
  obtain ⟨hrunning, hperforms, hregisters, hdialect⟩ := blockStorer_performs
  have hindex : blockStorer.registers.index.toNat = 0 := by rw [hregisters]; rfl
  have hpc : blockStorer.registers.pc.toNat = 0x200 := by rw [hregisters]; rfl
  have hsucceeds : blockStorer.step.2 = none := by
    refine step_snd_eq_none hrunning hperforms fun fault hfault => ?_
    cases hfault with
    | storeRegisters hend =>
      have hlast : 4095 < blockStorer.registers.index.toNat + 3 := hend
      omega
  obtain ⟨instruction, hperformed, hleads, hframes⟩ := step_within_footprint hrunning hsucceeds
  obtain rfl := hperformed.unique hperforms
  refine ⟨hrunning, hsucceeds, ?_, ?_, ?_, hframes.delay (by nofun)⟩
  · rw [hleads.1, hpc]
  · rw [hframes.index, indexAfter, hindex, hdialect]
    rfl
  · refine hframes.memory 4 (by omega) fun hstores => ?_
    have hlast : 4 ≤ blockStorer.registers.index.toNat + 3 := hstores.2
    omega

end Machine

end Chip8
