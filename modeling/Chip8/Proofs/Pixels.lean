import Chip8.Machine.Screen
import Mathlib.Data.List.Nodup

/-!
# Inverting pixels

Inverting pixels one after the other changes those cells of the screen on which an odd number of
them falls. Where no two of them fall on one cell they do not meet, and what they erase is what was
lit before the first.
-/

namespace Chip8

namespace Screen

variable {screen : Screen} {x y : Nat} {places : List (Nat × Nat)}

theorem cell_eq_iff {x' y' : Nat} :
    cell x y = cell x' y' ↔ x % 64 = x' % 64 ∧ y % 32 = y' % 32 := by
  rw [Fin.ext_iff]
  simp only [cell]
  omega

theorem cell_mod (x y : Nat) : cell (x % 64) (y % 32) = cell x y :=
  cell_eq_iff.mpr ⟨Nat.mod_mod x 64, Nat.mod_mod y 32⟩

theorem isLit_congr {x' y' : Nat} (hcell : cell x y = cell x' y') :
    screen.isLit x y = screen.isLit x' y' := by
  simp only [isLit, hcell]

/-- The cells of the given places. -/
def cells (places : List (Nat × Nat)) : List (Fin 2048) := places.map fun (x, y) => cell x y

theorem isLit_toggle (screen : Screen) (x y px py : Nat) :
    (screen.toggle x y).1.isLit px py = (screen.isLit px py ^^ decide (cell x y = cell px py)) := by
  by_cases hcell : cell x y = cell px py
  · simp [toggle, isLit, hcell]
  · have hplace : (cell x y).val ≠ (cell px py).val := fun heq => hcell (Fin.ext heq)
    simp [toggle, isLit, hcell, Vector.getElem_set_ne _ _ hplace]

theorem toggleAll_cons (screen : Screen) (x y : Nat) (places : List (Nat × Nat)) :
    screen.toggleAll ((x, y) :: places) =
      (((screen.toggle x y).1.toggleAll places).1,
        ((screen.toggle x y).1.toggleAll places).2 + (screen.isLit x y).toNat) := rfl

theorem isLit_toggleAll (screen : Screen) (places : List (Nat × Nat)) (px py : Nat) :
    (screen.toggleAll places).1.isLit px py =
      (screen.isLit px py ^^ decide ((cells places).count (cell px py) % 2 = 1)) := by
  induction places generalizing screen with
  | nil => simp [toggleAll, cells]
  | cons place rest ih =>
    obtain ⟨x, y⟩ := place
    have hcells : cells ((x, y) :: rest) = cell x y :: cells rest := rfl
    rw [toggleAll_cons, ih, isLit_toggle, hcells, List.count_cons, Bool.xor_assoc]
    congr 1
    by_cases hcell : cell x y = cell px py
    · rw [decide_eq_true hcell, if_pos (beq_iff_eq.mpr hcell), Bool.true_xor, ← decide_not,
        decide_eq_decide]
      omega
    · rw [decide_eq_false hcell, if_neg (beq_iff_eq.not.mpr hcell), Bool.false_xor, Nat.add_zero]

/-- Where the pixels do not meet, each of their cells is inverted once. -/
theorem isLit_toggleAll_of_nodup {px py : Nat} {inverted : Bool} (hnodup : (cells places).Nodup)
    (hinverted : inverted = true ↔ cell px py ∈ cells places) :
    (screen.toggleAll places).1.isLit px py = (screen.isLit px py ^^ inverted) := by
  rw [isLit_toggleAll]
  congr 1
  rw [Bool.eq_iff_iff, decide_eq_true_eq, hinverted]
  constructor
  · intro hodd
    exact List.count_pos_iff.mp (by omega)
  · intro hmem
    rw [List.count_eq_one_of_mem hnodup hmem]

/-- Pixels that do not meet are counted as they were before the first of them is inverted. -/
theorem erased_toggleAll_of_nodup (hnodup : (cells places).Nodup) :
    (screen.toggleAll places).2 = places.countP fun place => screen.isLit place.1 place.2 := by
  induction places generalizing screen with
  | nil => rfl
  | cons place rest ih =>
    obtain ⟨x, y⟩ := place
    obtain ⟨hfresh, hrest⟩ := List.nodup_cons.mp hnodup
    have hkept : ∀ place ∈ rest,
        (screen.toggle x y).1.isLit place.1 place.2 = screen.isLit place.1 place.2 := by
      intro place hplace
      have hcell : cell x y ≠ cell place.1 place.2 := fun heq =>
        hfresh (List.mem_map.mpr ⟨place, hplace, heq.symm⟩)
      rw [isLit_toggle, decide_eq_false hcell, Bool.xor_false]
    -- The first pixel lies on none of the cells of the rest, so they are counted as before it.
    rw [toggleAll_cons, List.countP_cons]
    dsimp only
    rw [ih hrest, List.countP_congr fun place hplace => by rw [hkept place hplace]]
    cases screen.isLit x y <;> rfl

end Screen

end Chip8
