import Chip8.Proofs.Executed
import Chip8.Proofs.Footprint

/-!
# Block transfers

V0 to Vx are stored byte by byte and loaded as one slice. Both take the block of memory that begins
at the index register, so a load undoes a store of the same block whatever happened to the registers
in between, and a store after a load puts back what is there already. The decimal digits of a
register are three bytes at the same place.
-/

namespace Chip8

namespace Memory

variable {memory : Memory} {address k : Nat} {bytes : List UInt8} {byte : UInt8}

theorem getElem?_write_inside (hend : address + k < 4096) (hbyte : bytes[k]? = some byte) :
    (memory.write address bytes).bytes[address + k]? = some byte := by
  rw [Vector.getElem?_eq_getElem hend, getElem_bytes_write, if_pos (Nat.le_add_right _ _),
    Nat.add_sub_cancel_left, List.getD_eq_getElem?_getD, hbyte, Option.getD_some]

theorem getElem?_write_outside (houtside : ¬(address ≤ k ∧ k < address + bytes.length)) :
    (memory.write address bytes).bytes[k]? = memory.bytes[k]? := by
  by_cases hk : k < 4096
  · rw [Vector.getElem?_eq_getElem hk, Vector.getElem?_eq_getElem hk,
      getElem_bytes_write_of_outside hk houtside]
  · rw [Vector.getElem?_eq_none (by omega), Vector.getElem?_eq_none (by omega)]

theorem ext_bytes {other : Memory} (hbytes : ∀ k : Nat, memory.bytes[k]? = other.bytes[k]?) :
    memory = other := by
  refine congrArg Memory.mk (Vector.ext fun k hk => ?_)
  have hbyte := hbytes k
  rwa [Vector.getElem?_eq_getElem hk, Vector.getElem?_eq_getElem hk, Option.some.injEq] at hbyte

end Memory

namespace Registers

variable {registers : Registers} {x y : Register} {bytes : List UInt8} {byte : UInt8}

theorem getElem?_readBlock (hy : y ≤ x) :
    (registers.readBlock x)[y.val]? = some (registers.read y) := by
  have hplace : y.val < registers.v.toList.length := by
    rw [Vector.length_toList]
    exact y.isLt
  rw [readBlock, List.getElem?_take_of_lt (Nat.lt_succ_of_le hy), List.getElem?_eq_getElem hplace,
    Vector.getElem_toList]
  rfl

theorem read_writeBlock (hbyte : bytes[y.val]? = some byte) :
    (registers.writeBlock bytes).read y = byte := by
  have hread : (registers.writeBlock bytes).read y = bytes.getD y (registers.read y) :=
    Vector.getElem_mapIdx _
  rw [hread, List.getD_eq_getElem?_getD, hbyte, Option.getD_some]

end Registers

/-- The digits of a byte make up its value. -/
theorem decimalDigits_eq (value : UInt8) :
    ∃ hundreds tens ones : UInt8,
      decimalDigits value = [hundreds, tens, ones] ∧ hundreds ≤ 9 ∧ tens ≤ 9 ∧ ones ≤ 9 ∧
        100 * hundreds.toNat + 10 * tens.toNat + ones.toNat = value.toNat := by
  have hvalue := value.toNat_lt
  have hten : (10 : UInt8).toNat = 10 := rfl
  have hhundred : (100 : UInt8).toNat = 100 := rfl
  have hnine : (9 : UInt8).toNat = 9 := rfl
  refine ⟨_, _, _, rfl, ?_, ?_, ?_, ?_⟩
  all_goals
    simp only [UInt8.le_iff_toNat_le, UInt8.toNat_div, UInt8.toNat_mod, hten, hhundred, hnine]
    omega

namespace Machine

/-- The machine after V0 to Vx were written to memory from the index register on. -/
structure StoresBlock (machine next : Machine) (x : Register) : Prop where
  block : ∀ y ≤ x,
    next.memory.bytes[machine.registers.index.toNat + y]? = some (machine.registers.read y)
  outside : ∀ k, ¬(machine.registers.index.toNat ≤ k ∧ k ≤ machine.registers.index.toNat + x) →
    next.memory.bytes[k]? = machine.memory.bytes[k]?
  index : next.registers.index.toNat =
    (machine.registers.index.toNat + machine.config.dialect.index.distance x) % 2 ^ 16
  rest : next =
    { machine with
      memory := next.memory
      registers := { machine.registers with
        index := next.registers.index
        pc := machine.registers.pc + 2 } }

/-- The machine after V0 to Vx were read from memory from the index register on. -/
structure LoadsBlock (machine next : Machine) (x : Register) : Prop where
  block : ∀ y ≤ x,
    machine.memory.bytes[machine.registers.index.toNat + y]? = some (next.registers.read y)
  outside : ∀ y, x < y → next.registers.read y = machine.registers.read y
  index : next.registers.index.toNat =
    (machine.registers.index.toNat + machine.config.dialect.index.distance x) % 2 ^ 16
  rest : next =
    { machine with
      registers := { machine.registers with
        v := next.registers.v
        index := next.registers.index
        pc := machine.registers.pc + 2 } }

/-- The machine after the digits of Vx were written to memory at the index register. -/
structure StoresDecimal (machine next : Machine) (x : Register) : Prop where
  digits : ∃ hundreds tens ones : UInt8,
    next.memory.bytes[machine.registers.index.toNat]? = some hundreds ∧
      next.memory.bytes[machine.registers.index.toNat + 1]? = some tens ∧
      next.memory.bytes[machine.registers.index.toNat + 2]? = some ones ∧
      hundreds ≤ 9 ∧ tens ≤ 9 ∧ ones ≤ 9 ∧
      100 * hundreds.toNat + 10 * tens.toNat + ones.toNat = (machine.registers.read x).toNat
  outside : ∀ k, ¬(machine.registers.index.toNat ≤ k ∧ k ≤ machine.registers.index.toNat + 2) →
    next.memory.bytes[k]? = machine.memory.bytes[k]?
  rest : next =
    { machine with
      memory := next.memory
      registers := { machine.registers with pc := machine.registers.pc + 2 } }

variable {machine : Machine} {x : Register} {bytes : List UInt8}

section Running

variable (hrunning : machine.mode = .running)
include hrunning

theorem storesBlock_step (hperforms : machine.Performs (.storeRegisters x))
    (hfits : machine.registers.index.toNat + x ≤ 4095) :
    machine.step.2 = none ∧ machine.StoresBlock machine.step.1 x := by
  have hlength := machine.registers.length_readBlock x
  have hstore : machine.advance.storeAtIndex (machine.advance.registers.readBlock x) = _ :=
    storeAtIndex_of_le (hlength.symm ▸ Nat.succ_le_succ hfits)
  have hexecute : machine.advance.execute (.storeRegisters x) =
      .ok () ({ machine.advance with
        memory := machine.memory.write machine.registers.index.toNat
          (machine.registers.readBlock x) }.stepIndex x) := by
    rw [execute, Call.get_bind, Call.bind_of_ok hstore]
    rfl
  rw [step_of_execute_eq_ok hrunning hperforms hexecute]
  refine ⟨rfl, fun y hy => ?_, fun k houtside => ?_, toNat_index_stepIndex _ x, rfl⟩
  · have hle : y.val ≤ x.val := hy
    exact Memory.getElem?_write_inside (by omega) (Registers.getElem?_readBlock hy)
  · refine Memory.getElem?_write_outside ?_
    rw [hlength]
    omega

theorem loadsBlock_step (hperforms : machine.Performs (.loadRegisters x))
    (hfits : machine.registers.index.toNat + x ≤ 4095) :
    machine.step.2 = none ∧ machine.LoadsBlock machine.step.1 x := by
  have hblock : machine.registers.index.toNat + (x.val + 1) ≤ 4096 := Nat.succ_le_succ hfits
  obtain ⟨bytes, hslice, hlength, hbytes⟩ := slice_index_of_le hblock
  have hexecute : machine.advance.execute (.loadRegisters x) =
      .ok () ((machine.advance.withRegisters
        (machine.advance.registers.writeBlock bytes)).stepIndex x) := by
    have hslice : machine.advance.memory.slice machine.advance.indexAddress
        (UInt64.ofNat (x + 1)) = .ok bytes := hslice
    rw [execute, Call.get_bind, hslice]
    rfl
  rw [step_of_execute_eq_ok hrunning hperforms hexecute]
  refine ⟨rfl, fun y hy => ?_, fun y hy => ?_, toNat_index_stepIndex _ x, rfl⟩
  · have hplace : y.val < bytes.length := hlength ▸ Nat.lt_succ_of_le hy
    have hread : (machine.registers.writeBlock bytes).read y = bytes[y.val] :=
      Registers.read_writeBlock (List.getElem?_eq_getElem hplace)
    rw [← hbytes y (hlength ▸ hplace), List.getElem?_eq_getElem hplace]
    exact congrArg some hread.symm
  · exact Registers.read_writeBlock_of_le (hlength ▸ hy)

theorem storesDecimal_step (hperforms : machine.Performs (.storeDecimal x))
    (hfits : machine.registers.index.toNat ≤ 4093) :
    machine.step.2 = none ∧ machine.StoresDecimal machine.step.1 x := by
  obtain ⟨hundreds, tens, ones, hdigits, hsum⟩ := decimalDigits_eq (machine.registers.read x)
  have hstore : machine.advance.storeAtIndex [hundreds, tens, ones] = _ :=
    storeAtIndex_of_le (Nat.add_le_add_right hfits 3)
  have hexecute : machine.advance.execute (.storeDecimal x) =
      .ok () { machine.advance with
        memory := machine.memory.write machine.registers.index.toNat [hundreds, tens, ones] } := by
    have hdigits : decimalDigits (machine.advance.registers.read x) = [hundreds, tens, ones] :=
      hdigits
    rw [execute, Call.get_bind, hdigits, hstore]
    rfl
  rw [step_of_execute_eq_ok hrunning hperforms hexecute]
  refine ⟨rfl, ⟨hundreds, tens, ones, ?_, ?_, ?_, hsum⟩, fun k houtside => ?_, rfl⟩
  · exact Memory.getElem?_write_inside (k := 0) (by omega) rfl
  · exact Memory.getElem?_write_inside (k := 1) (by omega) rfl
  · exact Memory.getElem?_write_inside (k := 2) (by omega) rfl
  · refine Memory.getElem?_write_outside fun hinside => houtside ⟨hinside.1, ?_⟩
    exact Nat.le_of_lt_succ hinside.2

end Running

/-- A load reads what a store left at its place. -/
theorem StoresBlock.load {stored later loaded : Machine} (hstored : machine.StoresBlock stored x)
    (hindex : later.registers.index = machine.registers.index)
    (hblock : ∀ y ≤ x, later.memory.bytes[machine.registers.index.toNat + y]? =
      stored.memory.bytes[machine.registers.index.toNat + y]?)
    (hloaded : later.LoadsBlock loaded x) :
    ∀ y ≤ x, loaded.registers.read y = machine.registers.read y := by
  intro y hy
  have hread := hloaded.block y hy
  rw [hindex, hblock y hy, hstored.block y hy, Option.some.injEq] at hread
  exact hread.symm

/-- A store of registers that memory holds already changes nothing there. -/
theorem StoresBlock.memory_eq {stored : Machine} (hstored : machine.StoresBlock stored x)
    (hblock : ∀ y ≤ x, machine.memory.bytes[machine.registers.index.toNat + y]? =
      some (machine.registers.read y)) : stored.memory = machine.memory := by
  refine Memory.ext_bytes fun k => ?_
  by_cases hinside :
      machine.registers.index.toNat ≤ k ∧ k ≤ machine.registers.index.toNat + x
  · obtain ⟨j, rfl⟩ := Nat.exists_eq_add_of_le hinside.1
    have hj : j ≤ x := by omega
    let y : Register := ⟨j, Nat.lt_of_le_of_lt hj x.isLt⟩
    exact (hstored.block y hj).trans (hblock y hj).symm
  · exact hstored.outside k hinside

/-- **Block transfers.** Where memory holds the whole block at the index register, a store writes V0
to Vx to it and nothing else, and a load reads them from it and nothing else; both move the index
register as the dialect says. A load of a block that was stored gives back the stored registers,
whatever they became in between, and a store of what was loaded from its place leaves memory as it
is. The decimal digits of a register go to the three bytes at the index register, which stays. -/
theorem block_transfers_invert (hrunning : machine.mode = .running) (x : Register) :
    (machine.registers.index.toNat + x ≤ 4095 → machine.Performs (.storeRegisters x) →
      let stored := machine.step.1
      machine.step.2 = none ∧ machine.StoresBlock stored x ∧
        ∀ later : Machine, later.mode = .running → later.Performs (.loadRegisters x) →
          later.registers.index = machine.registers.index →
          (∀ y ≤ x, later.memory.bytes[machine.registers.index.toNat + y]? =
            stored.memory.bytes[machine.registers.index.toNat + y]?) →
          later.step.2 = none ∧
            ∀ y ≤ x, later.step.1.registers.read y = machine.registers.read y) ∧
    (machine.registers.index.toNat + x ≤ 4095 → machine.Performs (.loadRegisters x) →
      let loaded := machine.step.1
      machine.step.2 = none ∧ machine.LoadsBlock loaded x ∧
        ∀ later : Machine, later.mode = .running → later.Performs (.storeRegisters x) →
          later.registers.index = machine.registers.index →
          (∀ y ≤ x, later.memory.bytes[machine.registers.index.toNat + y]? =
            loaded.memory.bytes[machine.registers.index.toNat + y]?) →
          (∀ y ≤ x, later.registers.read y = loaded.registers.read y) →
          later.step.2 = none ∧ later.step.1.memory = later.memory) ∧
    (machine.registers.index.toNat ≤ 4093 → machine.Performs (.storeDecimal x) →
      machine.step.2 = none ∧ machine.StoresDecimal machine.step.1 x) := by
  refine ⟨fun hfits hperforms => ?_, fun hfits hperforms => ?_, fun hfits hperforms =>
    storesDecimal_step hrunning hperforms hfits⟩
  · obtain ⟨hok, hstored⟩ := storesBlock_step hrunning hperforms hfits
    refine ⟨hok, hstored, fun later hlater hloads hindex hblock => ?_⟩
    obtain ⟨hloaded, hloads⟩ := loadsBlock_step hlater hloads (hindex ▸ hfits)
    exact ⟨hloaded, hstored.load hindex hblock hloads⟩
  · obtain ⟨hok, hloaded⟩ := loadsBlock_step hrunning hperforms hfits
    refine ⟨hok, hloaded, fun later hlater hstores hindex hblock hread => ?_⟩
    obtain ⟨hstored, hstores⟩ := storesBlock_step hlater hstores (hindex ▸ hfits)
    have hkept : machine.step.1.memory = machine.memory := by rw [hloaded.rest]
    refine ⟨hstored, hstores.memory_eq fun y hy => ?_⟩
    rw [hindex, hblock y hy, hkept, hloaded.block y hy, hread y hy]

/-- Loads V0 to V3, stores them, loads them again, and stores the digits of V0. -/
def shuttle : List UInt8 := [0xF3, 0x65, 0xF3, 0x55, 0xF3, 0x65, 0xF0, 0x33]

/-- A new machine with that program, which moves the index register behind each block. The font is
at address zero. -/
def shuttler : Machine := boot (.ofPreset .legacy) shuttle

/-- The machine with other registers, and back at the first address. -/
def rewound (machine : Machine) (v : Vector UInt8 16) : Machine :=
  machine.withRegisters { machine.registers with v, index := 0 }

theorem RunsAt.rewound {program : List UInt8} {k : Nat} (hat : machine.RunsAt program k)
    (v : Vector UInt8 16) : (machine.rewound v).RunsAt program k :=
  ⟨hat.mode, hat.memory, hat.pc⟩

theorem LoadsBlock.runsAt {next : Machine} {program : List UInt8} {k : Nat}
    (hloaded : machine.LoadsBlock next x) (hat : machine.RunsAt program k) (hk : k < 3584) :
    next.RunsAt program (k + 2) :=
  hat.next hk (by rw [hloaded.rest]) (by rw [hloaded.rest]) (by rw [hloaded.rest]; rfl)

theorem StoresBlock.runsAt {next : Machine} {program : List UInt8} {k : Nat}
    (hstored : machine.StoresBlock next x) (hat : machine.RunsAt program k) (hk : k < 3584)
    (hmemory : next.memory = machine.memory) : next.RunsAt program (k + 2) :=
  hat.next hk (by rw [hstored.rest]) hmemory (by rw [hstored.rest]; rfl)

theorem shuttler_inverts :
    let loaded := shuttler.step.1
    let stored := (loaded.rewound loaded.registers.v).step.1
    let restored := (stored.rewound (Vector.replicate 16 0)).step.1
    let final := (restored.rewound restored.registers.v).step.1
    shuttler.mode = .running ∧ shuttler.Performs (.loadRegisters 3) ∧
      (loaded.rewound loaded.registers.v).Performs (.storeRegisters 3) ∧
      (stored.rewound (Vector.replicate 16 0)).Performs (.loadRegisters 3) ∧
      (restored.rewound restored.registers.v).Performs (.storeDecimal 0) ∧
      stored.memory = shuttler.memory ∧
      restored.registers.read 0 = 0xF0 ∧
      final.memory.bytes[0]? = some 2 := by
  obtain ⟨start, hstart⟩ : ∃ start, shuttler = start := ⟨_, rfl⟩
  have hload : (create (.ofPreset .legacy) (.ofList [])).load shuttle = .ok () start :=
    hstart ▸ load_boot (by decide)
  rw [hstart]
  intro loaded stored restored final
  have hat : start.RunsAt shuttle 0 := runsAt_of_load hload
  have hindex : start.registers.index = 0 := by
    rw [registers_of_load hload]
    rfl
  have hfits (m : Machine) (v : Vector UInt8 16) :
      (m.rewound v).registers.index.toNat + (3 : Register) ≤ 4095 := by
    have hzero : (m.rewound v).registers.index.toNat = 0 := rfl
    rw [hzero]
    decide
  have hloads : start.Performs (.loadRegisters 3) :=
    ⟨0xF365, hat.fetches (by decide) rfl rfl (by decide), by decide⟩
  -- The load, and a store of what it loaded to the same place.
  obtain ⟨-, hloading, -⟩ := block_transfers_invert hat.mode 3
  obtain ⟨-, hloaded, hback⟩ := hloading (by rw [hindex]; decide) hloads
  have hat₂ := (hloaded.runsAt hat (by decide)).rewound start.step.1.registers.v
  have hstores : (loaded.rewound loaded.registers.v).Performs (.storeRegisters 3) :=
    ⟨0xF355, hat₂.fetches (by decide) rfl rfl (by decide), by decide⟩
  obtain ⟨-, hmemory⟩ := hback _ hat₂.mode hstores hindex.symm (fun _ _ => rfl) (fun _ _ => rfl)
  -- The store, and a load of what it stored over other registers.
  obtain ⟨hstoring, -, -⟩ := block_transfers_invert hat₂.mode 3
  obtain ⟨-, hstored, hagain⟩ := hstoring (hfits _ _) hstores
  have hat₄ := (hstored.runsAt hat₂ (by decide) hmemory).rewound (Vector.replicate 16 0)
  have hreloads : (stored.rewound (Vector.replicate 16 0)).Performs (.loadRegisters 3) :=
    ⟨0xF365, hat₄.fetches (by decide) rfl rfl (by decide), by decide⟩
  obtain ⟨-, hread⟩ := hagain _ hat₄.mode hreloads rfl (fun _ _ => rfl)
  have hfont : (Memory.initial.write 0x200 shuttle).bytes[0]? = some 0xF0 := by
    rw [Memory.getElem?_write_outside (by decide), Memory.initial, Vector.getElem?_ofFn]
    rfl
  have hglyph : loaded.registers.read 0 = 0xF0 := by
    have hbyte := hloaded.block 0 (by decide)
    rw [hindex, hat.memory] at hbyte
    exact (Option.some.inj (hfont.symm.trans hbyte)).symm
  have hrestored : restored.registers.read 0 = 0xF0 := (hread 0 (by decide)).trans hglyph
  -- The digits of what came back.
  obtain ⟨-, hreloading, -⟩ := block_transfers_invert hat₄.mode 3
  obtain ⟨-, hreloaded, -⟩ := hreloading (hfits _ _) hreloads
  have hat₆ := (hreloaded.runsAt hat₄ (by decide)).rewound restored.registers.v
  have hdigits : (restored.rewound restored.registers.v).Performs (.storeDecimal 0) :=
    ⟨0xF033, hat₆.fetches (by decide) rfl rfl (by decide), by decide⟩
  obtain ⟨-, -, hdecimal⟩ := block_transfers_invert hat₆.mode 0
  obtain ⟨-, ⟨hundreds, tens, ones, hbyte, -, -, -, htens, hones, hsum⟩, -, -⟩ :=
    hdecimal (Nat.zero_le _) hdigits
  refine ⟨hat.mode, hloads, hstores, hreloads, hdigits,
    hmemory.trans (hat₂.memory.trans hat.memory.symm), hrestored, ?_⟩
  have hvalue : 100 * hundreds.toNat + 10 * tens.toNat + ones.toNat = 240 :=
    hsum.trans (congrArg UInt8.toNat hrestored)
  have htens : tens.toNat ≤ 9 := UInt8.le_iff_toNat_le.mp htens
  have hones : ones.toNat ≤ 9 := UInt8.le_iff_toNat_le.mp hones
  have hhundreds : hundreds = 2 := UInt8.toNat_inj.mp (show hundreds.toNat = 2 by omega)
  rw [← hhundreds]
  exact hbyte

end Machine

end Chip8
