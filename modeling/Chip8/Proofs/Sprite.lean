import Chip8.Proofs.Pixels
import Chip8.Proofs.StepFault

/-!
# Drawing a sprite

A sprite is drawn pixel by pixel, but it might as well be drawn at once. It is no larger than the
screen, so that no two of its pixels fall on one cell, wherever it is wrapped around an edge. So
each cell is inverted if the bit at its distance from the corner is set, and the flag tells whether
such a cell was lit before.
-/

namespace Chip8

namespace Screen

variable {screen : Screen} {x y : Nat} {rows : List UInt8}

theorem mem_sprite_iff {place : Nat × Nat} :
    place ∈ sprite x y rows ↔
      ∃ column k row, column < 8 ∧ rows[k]? = some row ∧
        row.toNat.testBit (7 - column) = true ∧ place = (x + column, y + k) := by
  simp only [sprite, List.mem_flatMap, List.mem_filterMap, List.mem_range, Prod.exists,
    List.mem_zipIdx_iff_getElem?, Option.ite_none_right_eq_some, Option.some.injEq]
  constructor
  · rintro ⟨row, k, hrow, column, hcolumn, hbit, rfl⟩
    exact ⟨column, k, row, hcolumn, hrow, hbit, rfl⟩
  · rintro ⟨column, k, row, hcolumn, hrow, hbit, rfl⟩
    exact ⟨row, k, hrow, column, hcolumn, hbit, rfl⟩

/-- No two pixels of a sprite fall on one cell, even where it is wrapped around an edge. -/
theorem nodup_cells_sprite (hrows : rows.length ≤ 32) : (cells (sprite x y rows)).Nodup := by
  have hindices : rows.zipIdx.Pairwise fun first second => first.2 < second.2 := by
    rw [← List.pairwise_map, List.zipIdx_map_snd]
    exact List.pairwise_lt_range'
  rw [cells, List.Nodup, List.pairwise_map, sprite, List.pairwise_flatMap]
  -- Within a row the columns differ by less than 64, between two the rows by less than 32.
  constructor
  · rintro ⟨row, k⟩ -
    rw [List.pairwise_filterMap]
    refine List.pairwise_lt_range.imp_of_mem fun {c c'} hc hc' hlt => ?_
    simp only [List.mem_range] at hc hc'
    simp only [Option.ite_none_right_eq_some, Option.some.injEq]
    rintro _ ⟨-, rfl⟩ _ ⟨-, rfl⟩
    rw [Ne, cell_eq_iff]
    omega
  · refine hindices.imp_of_mem fun {first second} hfirst hsecond hlt => ?_
    obtain ⟨row, k⟩ := first
    obtain ⟨row', k'⟩ := second
    have hk : k' < rows.length := by
      rw [List.mem_zipIdx_iff_getElem?] at hsecond
      exact (List.getElem?_eq_some_iff.mp hsecond).1
    simp only [List.mem_filterMap, List.mem_range, Option.ite_none_right_eq_some,
      Option.some.injEq]
    rintro _ ⟨c, hc, -, rfl⟩ _ ⟨c', hc', -, rfl⟩
    rw [Ne, cell_eq_iff]
    dsimp only at hlt
    omega

/-- How far a column is to the right of another, around the edge. -/
def columnFrom (x px : Nat) : Nat := (((px : Int) - x) % 64).toNat

/-- How far a row is below another, around the edge. -/
def rowFrom (y py : Nat) : Nat := (((py : Int) - y) % 32).toNat

theorem columnFrom_eq_iff {px column : Nat} (hcolumn : column < 64) :
    columnFrom x px = column ↔ (x + column) % 64 = px % 64 := by
  unfold columnFrom
  omega

theorem rowFrom_eq_iff {py row : Nat} (hrow : row < 32) :
    rowFrom y py = row ↔ (y + row) % 32 = py % 32 := by
  unfold rowFrom
  omega

/-- The cells that a sprite inverts, by their distance from its corner. -/
theorem cell_mem_sprite_iff {px py : Nat} (hrows : rows.length ≤ 32) :
    cell px py ∈ cells (sprite x y rows) ↔
      columnFrom x px < 8 ∧ ∃ row, rows[rowFrom y py]? = some row ∧
        row.toNat.testBit (7 - columnFrom x px) = true := by
  simp only [cells, List.mem_map, mem_sprite_iff]
  constructor
  · rintro ⟨_, ⟨column, k, row, hcolumn, hrow, hbit, rfl⟩, hcell⟩
    obtain ⟨hacross, hdown⟩ := cell_eq_iff.mp hcell
    have hk : k < rows.length := (List.getElem?_eq_some_iff.mp hrow).1
    rw [(columnFrom_eq_iff (by omega)).mpr hacross, (rowFrom_eq_iff (by omega)).mpr hdown]
    exact ⟨hcolumn, row, hrow, hbit⟩
  · rintro ⟨hcolumn, row, hrow, hbit⟩
    have hk : rowFrom y py < rows.length := (List.getElem?_eq_some_iff.mp hrow).1
    refine ⟨_, ⟨columnFrom x px, rowFrom y py, row, hcolumn, hrow, hbit, rfl⟩, ?_⟩
    rw [cell_eq_iff]
    exact ⟨(columnFrom_eq_iff (by omega)).mp rfl, (rowFrom_eq_iff (by omega)).mp rfl⟩

/-- A sprite inverts each of its cells. -/
theorem isLit_draw {px py : Nat} {inverted : Bool} (hrows : rows.length ≤ 32)
    (hinverted : inverted = true ↔ cell px py ∈ cells (sprite x y rows)) :
    (screen.draw x y rows).1.isLit px py = (screen.isLit px py ^^ inverted) :=
  isLit_toggleAll_of_nodup (nodup_cells_sprite hrows) hinverted

/-- A sprite erases if a cell that it inverts was lit. -/
theorem erased_draw_iff (hrows : rows.length ≤ 32) :
    (screen.draw x y rows).2 = true ↔
      ∃ px < 64, ∃ py < 32,
        cell px py ∈ cells (sprite x y rows) ∧ screen.isLit px py = true := by
  have herased : (screen.draw x y rows).2 = ((screen.toggleAll (sprite x y rows)).2 != 0) := rfl
  rw [herased, bne_iff_ne, erased_toggleAll_of_nodup (nodup_cells_sprite hrows),
    ← Nat.pos_iff_ne_zero, List.countP_pos_iff]
  constructor
  · rintro ⟨⟨px, py⟩, hplace, hlit⟩
    refine ⟨px % 64, Nat.mod_lt px (by decide), py % 32, Nat.mod_lt py (by decide), ?_, ?_⟩
    · exact List.mem_map.mpr ⟨(px, py), hplace, (cell_mod px py).symm⟩
    · rwa [isLit_congr (cell_mod px py)]
  · rintro ⟨px, -, py, -, hcell, hlit⟩
    obtain ⟨place, hplace, hsame⟩ := List.mem_map.mp hcell
    exact ⟨place, hplace, (isLit_congr hsame).trans hlit⟩

end Screen

namespace Machine

variable {machine : Machine} {x y : Register} {height : Fin 16}

/-- The bit for a cell in the sprite at the index register, with its corner at Vx and Vy. -/
def spriteBit (machine : Machine) (x y : Register) (height : Fin 16) (px py : Nat) : Bool :=
  let column := Screen.columnFrom (machine.registers.read x).toNat px
  let row := Screen.rowFrom (machine.registers.read y).toNat py
  decide (row < height ∧ column < 8) &&
    machine.memory.bytes[machine.registers.index.toNat + row]?.any fun byte =>
      byte.toNat.testBit (7 - column)

theorem spriteBit_iff {px py : Nat} {rows : List UInt8} (hlength : rows.length = height)
    (hrows : ∀ k < height.val,
      rows[k]? = machine.memory.bytes[machine.registers.index.toNat + k]?) :
    machine.spriteBit x y height px py = true ↔
      Screen.cell px py ∈ Screen.cells
        (Screen.sprite (machine.registers.read x).toNat (machine.registers.read y).toNat rows) := by
  have hheight := height.isLt
  rw [Screen.cell_mem_sprite_iff (by omega), spriteBit]
  simp only [Bool.and_eq_true, decide_eq_true_eq, Option.any_eq_true]
  constructor
  · rintro ⟨⟨hrow, hcolumn⟩, byte, hbyte, hbit⟩
    exact ⟨hcolumn, byte, (hrows _ hrow).trans hbyte, hbit⟩
  · rintro ⟨hcolumn, byte, hbyte, hbit⟩
    have hrow := (List.getElem?_eq_some_iff.mp hbyte).1
    rw [hlength] at hrow
    exact ⟨⟨hrow, hcolumn⟩, byte, (hrows _ hrow).symm.trans hbyte, hbit⟩

/-- **Drawing inverts the sprite.** Where memory holds all rows of the sprite, a step that draws it
inverts each cell for which its bit is set, counted from the corner around the edges, and no other.
The flag becomes 1 if one of these cells was lit and 0 otherwise, and the picture is marked as
changed. Nothing else changes, but that the program counter moves on. -/
theorem draw_inverts_sprite (hrunning : machine.mode = .running)
    (hperforms : machine.Performs (.draw x y height))
    (hfits : machine.registers.index.toNat + height ≤ 4096) :
    ∃ screen registers erased,
      machine.step = ({ machine with registers, screen }, none) ∧
        Registers.Assigns { machine.registers with pc := machine.registers.pc + 2 } .vf
          (if erased then 1 else 0) registers ∧
        (∀ px py, screen.isLit px py =
          (machine.screen.isLit px py ^^ machine.spriteBit x y height px py)) ∧
        (erased = true ↔ ∃ px < 64, ∃ py < 32,
          machine.spriteBit x y height px py = true ∧ machine.screen.isLit px py = true) ∧
        screen.dirty = true := by
  obtain ⟨rows, hslice, hlength, hrows⟩ := slice_index_of_le hfits
  have hheight : rows.length ≤ 32 := by omega
  let drawn := machine.screen.draw (machine.registers.read x).toNat
    (machine.registers.read y).toNat rows
  refine ⟨drawn.1, machine.advance.registers.write .vf (if drawn.2 then 1 else 0), drawn.2, ?_,
    machine.advance.registers.assigns_write .vf _, ?_, ?_, rfl⟩
  -- The instruction is executed with the program counter past it, which it does not read.
  · have hslice : machine.advance.memory.slice machine.advance.indexAddress
        (UInt64.ofNat height) = .ok rows := hslice
    exact step_of_execute_eq_ok hrunning hperforms (draw_of_slice_eq_ok hslice)
  · intro px py
    exact Screen.isLit_draw hheight (spriteBit_iff hlength hrows)
  · rw [Screen.erased_draw_iff hheight]
    simp only [spriteBit_iff hlength hrows]

/-- A machine that is about to draw a sprite that does not fit into the lower right corner. Its
screen has a lit pixel on the sprite and one beside it. -/
def wrappedSprite : Machine :=
  { create .default (.ofList []) with
    memory := ⟨Vector.replicate 4096 0xDD⟩
    registers := { Registers.initial with v := Vector.replicate 16 60, index := 0x300 }
    screen := ((Screen.blank.toggle 1 0).1.toggle 58 0).1
    mode := .running }

theorem wrappedSprite_performs : wrappedSprite.Performs (.draw 13 13 13) := by
  have hword : wrappedSprite.Fetches 0xDDDD := ⟨by decide, by
    simp only [wrappedSprite, Vector.getElem_replicate]
    decide⟩
  exact ⟨0xDDDD, hword, by decide⟩

theorem wrappedSprite_drawn :
    wrappedSprite.mode = .running ∧ wrappedSprite.Performs (.draw 13 13 13) ∧
      wrappedSprite.registers.index.toNat + (13 : Fin 16) ≤ 4096 ∧
      wrappedSprite.step.2 = none ∧
      wrappedSprite.step.1.screen.isLit 0 0 = true ∧
      wrappedSprite.step.1.screen.isLit 1 0 = false ∧
      wrappedSprite.step.1.screen.isLit 58 0 = true ∧
      wrappedSprite.step.1.registers.read .vf = 1 ∧
      wrappedSprite.step.1.registers.read 13 = 60 := by
  have hfits : wrappedSprite.registers.index.toNat + (13 : Fin 16) ≤ 4096 := by decide
  obtain ⟨screen, registers, erased, hstep, hassigns, hlit, herased, -⟩ :=
    draw_inverts_sprite rfl wrappedSprite_performs hfits
  have hbefore (px py : Nat) : wrappedSprite.screen.isLit px py =
      (decide (Screen.cell 1 0 = Screen.cell px py) ^^
        decide (Screen.cell 58 0 = Screen.cell px py)) := by
    have hscreen : wrappedSprite.screen = ((Screen.blank.toggle 1 0).1.toggle 58 0).1 := rfl
    have hblank : Screen.blank.isLit px py = false := Vector.getElem_replicate _
    rw [hscreen, Screen.isLit_toggle, Screen.isLit_toggle, hblank, Bool.false_xor]
  have hset : wrappedSprite.spriteBit 13 13 13 0 0 = true ∧
      wrappedSprite.spriteBit 13 13 13 1 0 = true := by
    simp only [spriteBit, wrappedSprite, Vector.getElem?_replicate]
    decide
  have hunset : wrappedSprite.spriteBit 13 13 13 58 0 = false := by
    simp only [spriteBit, wrappedSprite, Vector.getElem?_replicate]
    decide
  have hcollides : erased = true :=
    herased.mpr ⟨1, by decide, 0, by decide, hset.2, by rw [hbefore]; decide⟩
  rw [hstep]
  refine ⟨rfl, wrappedSprite_performs, hfits, rfl, ?_, ?_, ?_, ?_, ?_⟩
  · rw [hlit, hbefore, hset.1]
    decide
  · rw [hlit, hbefore, hset.2]
    decide
  · rw [hlit, hbefore, hunset]
    decide
  · rw [hassigns.here, hcollides]
    rfl
  · rw [hassigns.elsewhere 13 (by decide)]
    rfl

end Machine

end Chip8
