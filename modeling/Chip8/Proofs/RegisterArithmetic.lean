import Chip8.Proofs.Footprint

/-!
# Register arithmetic

What an instruction computes for a register and for the flag is a matter of whole numbers: a result,
of which the register keeps the lowest eight bits, and a comparison of the operands or a bit of
one of them. Both are taken from the registers as they are before the instruction, so it does not
matter which of the registers are the same, and the flag itself may be an operand. Where the result
goes to the flag register, the flag is lost.
-/

namespace Chip8

/-- What is computed for a register: a whole number, and the flag that goes with it if there is
one. -/
structure Outcome where
  register : Register
  total : Int
  flag : Option Bool

namespace Arithmetic

/-- The number that a shift reads. -/
def shiftOperand (source : ShiftSource) (vx vy : Nat) : Nat :=
  match source with
  | .vx => vx
  | .vy => vy

/-- The result of an operation on the numbers in Vx and Vy. -/
def total (source : ShiftSource) (vx vy : Nat) : Arithmetic → Int
  | load => vy
  | or => (vx ||| vy : Nat)
  | and => (vx &&& vy : Nat)
  | xor => (vx ^^^ vy : Nat)
  | add => vx + vy
  | sub => vx - vy
  | subFrom => vy - vx
  | shiftRight => (shiftOperand source vx vy / 2 : Nat)
  | shiftLeft => (2 * shiftOperand source vx vy : Nat)

/-- The flag of an operation: a carry, the absence of a borrow, or the bit that is shifted out. -/
def flag? (source : ShiftSource) (vx vy : Nat) : Arithmetic → Option Bool
  | load | or | and | xor => none
  | add => some (255 < vx + vy)
  | sub => some (vy ≤ vx)
  | subFrom => some (vx ≤ vy)
  | shiftRight => some (shiftOperand source vx vy % 2 = 1)
  | shiftLeft => some (128 ≤ shiftOperand source vx vy)

theorem toNat_shifted (source : ShiftSource) (vx vy : UInt8) :
    (result.shifted source vx vy).toNat = shiftOperand source vx.toNat vy.toNat := by
  cases source <;> rfl

/-- A byte is its number modulo 256. -/
theorem toNat_emod (byte : UInt8) : (byte.toNat : Int) % 256 = byte.toNat := by
  have hbyte := byte.toNat_lt
  omega

theorem toNat_shiftRight_of_lt {byte places : UInt8} (hplaces : places.toNat < 8) :
    (byte >>> places).toNat = byte.toNat / 2 ^ places.toNat := by
  rw [UInt8.toNat_shiftRight, Nat.mod_eq_of_lt hplaces, Nat.shiftRight_eq_div_pow]

theorem toNat_bit {p q : Prop} [Decidable p] [Decidable q] (hiff : p ↔ q) :
    (if p then 1 else 0 : UInt8).toNat = (decide q).toNat := by
  by_cases hp : p
  · rw [if_pos hp, decide_eq_true (hiff.mp hp)]
    rfl
  · rw [if_neg hp, decide_eq_false (mt hiff.mpr hp)]
    rfl

theorem toNat_shiftLeft_one (byte : UInt8) : (byte <<< 1).toNat = 2 * byte.toNat % 256 := by
  have hone : (1 : UInt8).toNat % 8 = 1 := rfl
  rw [UInt8.toNat_shiftLeft, hone, Nat.shiftLeft_eq, Nat.pow_one, Nat.mul_comm]

theorem toNat_result (op : Arithmetic) (source : ShiftSource) (vx vy : UInt8) :
    ((op.result source vx vy).1.toNat : Int) = op.total source vx.toNat vy.toNat % 256 := by
  have hvx := vx.toNat_lt
  have hvy := vy.toNat_lt
  cases op with
  | load => exact (toNat_emod vy).symm
  | or =>
    rw [total, ← UInt8.toNat_or, toNat_emod]
    rfl
  | and =>
    rw [total, ← UInt8.toNat_and, toNat_emod]
    rfl
  | xor =>
    rw [total, ← UInt8.toNat_xor, toNat_emod]
    rfl
  | add =>
    rw [result, total, UInt8.toNat_add]
    omega
  | sub =>
    rw [result, total, UInt8.toNat_sub]
    omega
  | subFrom =>
    rw [result, total, UInt8.toNat_sub]
    omega
  | shiftRight =>
    have hhalf : (result.shifted source vx vy >>> 1).toNat =
        (result.shifted source vx vy).toNat / 2 := toNat_shiftRight_of_lt (by decide)
    rw [total, ← toNat_shifted, ← hhalf, toNat_emod]
    rfl
  | shiftLeft =>
    have hdouble := toNat_shiftLeft_one (result.shifted source vx vy)
    rw [result, total, ← toNat_shifted]
    exact_mod_cast hdouble

theorem toNat_flag (op : Arithmetic) (source : ShiftSource) (vx vy : UInt8) :
    (op.result source vx vy).2.map UInt8.toNat =
      (op.flag? source vx.toNat vy.toNat).map Bool.toNat := by
  cases op with
  | load | or | and | xor => rfl
  | add => exact congrArg some (toNat_bit Iff.rfl)
  | sub | subFrom => exact congrArg some (toNat_bit UInt8.le_iff_toNat_le)
  | shiftRight =>
    have hlow : (result.shifted source vx vy &&& 1).toNat =
        (result.shifted source vx vy).toNat % 2 := by
      rw [UInt8.toNat_and]
      exact Nat.and_one_is_mod _
    rw [flag?, ← toNat_shifted]
    refine congrArg some (hlow.trans ?_)
    obtain heven | hodd := Nat.mod_two_eq_zero_or_one (result.shifted source vx vy).toNat
    · rw [heven]
      rfl
    · rw [hodd]
      rfl
  | shiftLeft =>
    have hbyte := (result.shifted source vx vy).toNat_lt
    have hhigh : (result.shifted source vx vy >>> 7).toNat =
        (result.shifted source vx vy).toNat / 128 := toNat_shiftRight_of_lt (by decide)
    rw [flag?, ← toNat_shifted]
    refine congrArg some (hhigh.trans ?_)
    by_cases hset : 128 ≤ (result.shifted source vx vy).toNat
    · rw [decide_eq_true hset, Bool.toNat_true]
      omega
    · rw [decide_eq_false hset, Bool.toNat_false]
      omega

end Arithmetic

namespace Registers

variable {registers : Registers} {x : Register} {value : UInt8}

theorem read_writeResult_self {flag : Option UInt8} :
    (registers.writeResult x value flag).read x = value := by
  cases flag <;> exact read_write_self

/-- The flag is written before the result, which only replaces it in its own register. -/
theorem read_vf_writeResult {flag : UInt8} (hx : x ≠ .vf) :
    (registers.writeResult x value (some flag)).read .vf = flag :=
  (read_write_of_ne hx.symm).trans read_write_self

end Registers

namespace Machine

variable {machine : Machine} {instruction : Instruction} {outcome : Outcome}

/-- What an instruction computes from the registers before it, if it computes anything. The sources
of a shift are the dialect's. -/
def outcome? (machine : Machine) : Instruction → Option Outcome
  | .loadByte x byte => some ⟨x, byte.toNat, none⟩
  | .addByte x byte => some ⟨x, (machine.registers.read x).toNat + byte.toNat, none⟩
  | .arithmetic op x y =>
    let source := machine.config.dialect.shift
    let vx := (machine.registers.read x).toNat
    let vy := (machine.registers.read y).toNat
    some ⟨x, op.total source vx vy, op.flag? source vx vy⟩
  | _ => none

theorem outcome?_arithmetic (machine : Machine) (op : Arithmetic) (x y : Register) :
    machine.outcome? (.arithmetic op x y) =
      some ⟨x,
        op.total machine.config.dialect.shift (machine.registers.read x).toNat
          (machine.registers.read y).toNat,
        op.flag? machine.config.dialect.shift (machine.registers.read x).toNat
          (machine.registers.read y).toNat⟩ := rfl

/-- An instruction that computes something writes it as a byte and a flag. -/
theorem execute_of_outcome (houtcome : machine.outcome? instruction = some outcome) :
    ∃ value flag,
      machine.execute instruction =
          .ok () (machine.withRegisters
            (machine.registers.writeResult outcome.register value flag)) ∧
        (value.toNat : Int) = outcome.total % 256 ∧
        flag.map UInt8.toNat = outcome.flag.map Bool.toNat := by
  cases instruction with
  | loadByte x byte =>
    obtain rfl := Option.some.inj houtcome
    exact ⟨byte, none, rfl, (Arithmetic.toNat_emod byte).symm, rfl⟩
  | addByte x byte =>
    obtain rfl := Option.some.inj houtcome
    exact ⟨machine.registers.read x + byte, none, rfl, Arithmetic.toNat_result .add .vx _ _, rfl⟩
  | arithmetic op x y =>
    obtain rfl := Option.some.inj houtcome
    exact ⟨_, _, rfl, op.toNat_result _ _ _, op.toNat_flag _ _ _⟩
  | _ => contradiction

/-- **Operands are read before anything is written.** An instruction that computes something leaves
the result, modulo 256, in its register, whichever registers its operands are in. A flag that goes
with the result is left in VF, unless the result is there. No other of the registers V0 to VF
changes, and nothing else but that the program counter moves on. -/
theorem arithmetic_on_old_operands (hrunning : machine.mode = .running)
    (hperforms : machine.Performs instruction)
    (houtcome : machine.outcome? instruction = some outcome) :
    ∃ v : Vector UInt8 16,
      machine.step =
          ({ machine with
            registers := { machine.registers with v, pc := machine.registers.pc + 2 } }, none) ∧
        ((v.get outcome.register).toNat : Int) = outcome.total % 256 ∧
        (∀ set, outcome.flag = some set → outcome.register ≠ .vf →
          (v.get Register.vf).toNat = set.toNat) ∧
        ∀ z, z ≠ outcome.register → (z = .vf → outcome.flag = none) →
          v.get z = machine.registers.read z := by
  have houtcome : machine.advance.outcome? instruction = some outcome := houtcome
  obtain ⟨value, flag, hexecute, hvalue, hflag⟩ := execute_of_outcome houtcome
  have hadvance : machine.advance.registers.writeResult outcome.register value flag =
      { machine.registers with
        v := (machine.registers.writeResult outcome.register value flag).v
        pc := machine.registers.pc + 2 } := by
    cases flag <;> rfl
  have hself : (machine.registers.writeResult outcome.register value flag).read
      outcome.register = value := Registers.read_writeResult_self
  refine ⟨(machine.registers.writeResult outcome.register value flag).v, ?_, ?_, ?_, ?_⟩
  · rw [step_of_execute_eq_ok hrunning hperforms hexecute, hadvance]
    rfl
  · rwa [← hself] at hvalue
  · intro set hset hx
    rw [hset] at hflag
    obtain ⟨bit, rfl, hbit⟩ := Option.map_eq_some_iff.mp hflag
    rw [← hbit]
    exact congrArg UInt8.toNat (Registers.read_vf_writeResult hx)
  · intro z hz hvf
    refine Registers.read_writeResult_of_ne hz fun hsome heq => hsome ?_
    rw [hvf heq] at hflag
    exact Option.map_eq_none_iff.mp hflag

/-- Loads 200 into VF and adds VF to itself. -/
def doubling : List UInt8 := [0x6F, 0xC8, 0x8F, 0xF4]

/-- A new machine with that program. -/
def flagDoubler : Machine := boot .default doubling

theorem flagDoubler_keeps_sum :
    let loaded := flagDoubler.step.1
    flagDoubler.mode = .running ∧ flagDoubler.Performs (.loadByte .vf 200) ∧
      loaded.mode = .running ∧ loaded.Performs (.arithmetic .add .vf .vf) ∧
      loaded.outcome? (.arithmetic .add .vf .vf) = some ⟨.vf, 400, some true⟩ ∧
      loaded.step.1.registers.flag.toNat = 144 := by
  obtain ⟨start, hstart⟩ : ∃ start, flagDoubler = start := ⟨_, rfl⟩
  have hload : (create .default (.ofList [])).load doubling = .ok () start :=
    hstart ▸ load_boot (by decide)
  rw [hstart]
  intro loaded
  have hat : start.RunsAt doubling 0 := runsAt_of_load hload
  have hloads : start.Performs (.loadByte .vf 200) :=
    ⟨0x6FC8, hat.fetches (by decide) rfl rfl (by decide), by decide⟩
  obtain ⟨v, hstep, hvalue, -⟩ := arithmetic_on_old_operands hat.mode hloads rfl
  have hloaded : loaded = { start with
      registers := { start.registers with v, pc := start.registers.pc + 2 } } :=
    congrArg Prod.fst hstep
  have hat₂ : loaded.RunsAt doubling 2 :=
    hat.next (by decide) (by rw [hloaded]) (by rw [hloaded]) (by rw [hloaded]; rfl)
  have hadds : loaded.Performs (.arithmetic .add .vf .vf) :=
    ⟨0x8FF4, hat₂.fetches (by decide) rfl rfl (by decide), by decide⟩
  have hvf : (loaded.registers.read .vf).toNat = 200 := by
    rw [hloaded]
    exact Int.ofNat_inj.mp hvalue
  have houtcome : loaded.outcome? (.arithmetic .add .vf .vf) = some ⟨.vf, 400, some true⟩ := by
    rw [outcome?_arithmetic, hvf]
    rfl
  obtain ⟨w, hsum, htotal, -⟩ := arithmetic_on_old_operands hat₂.mode hadds houtcome
  refine ⟨hat.mode, hloads, hat₂.mode, hadds, houtcome, ?_⟩
  rw [hsum]
  exact Int.ofNat_inj.mp htotal

end Machine

end Chip8
