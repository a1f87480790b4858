import Chip8.Proofs.Pixels

/-!
# Pixels in any order

A list of pixels to invert acts on the screen through the number of its pixels on each cell, so its
order shows in the answers one by one and in nothing else. Not even in how many of them tell of an
erased pixel: each inversion puts one pixel out or lights one, so that number follows from how many
pixels are lit before and after.
-/

namespace Chip8

namespace Screen

variable {screen : Screen} {places reordered : List (Nat × Nat)}

/-- The number of lit pixels. -/
def lit (screen : Screen) : Nat := screen.pixels.count true

theorem pixels_ext {other : Screen}
    (hlit : ∀ (px : Fin 64) (py : Fin 32), screen.isLit px py = other.isLit px py) :
    screen.pixels = other.pixels := by
  refine Vector.ext fun i hi => ?_
  have hcell : (cell (i % 64) (i / 64)).val = i := by
    simp only [cell]
    omega
  have hplace := hlit ⟨i % 64, by omega⟩ ⟨i / 64, by omega⟩
  simpa only [isLit, Fin.getElem_fin, hcell] using hplace

theorem dirty_toggleAll (screen : Screen) (places : List (Nat × Nat)) :
    (screen.toggleAll places).1.dirty = (screen.dirty || !places.isEmpty) := by
  induction places generalizing screen with
  | nil => simp [toggleAll]
  | cons place rest ih =>
    obtain ⟨x, y⟩ := place
    rw [toggleAll_cons, ih]
    simp [toggle]

/-- One inversion lights a pixel, or it puts one out and tells so. -/
theorem lit_toggle (screen : Screen) (x y : Nat) :
    (screen.toggle x y).1.lit + 2 * (screen.isLit x y).toNat = screen.lit + 1 := by
  have hset : (screen.toggle x y).1.lit =
      (screen.lit - if screen.isLit x y == true then 1 else 0) +
        if (!screen.isLit x y) == true then 1 else 0 := Vector.count_set (cell x y).isLt
  rw [hset]
  cases hlit : screen.isLit x y with
  | false => rfl
  | true =>
    have hpos : 0 < screen.lit :=
      Vector.count_pos_iff.mpr (hlit ▸ Vector.getElem_mem (cell x y).isLt)
    show screen.lit - 1 + 0 + 2 * 1 = screen.lit + 1
    omega

theorem lit_toggleAll (screen : Screen) (places : List (Nat × Nat)) :
    (screen.toggleAll places).1.lit + 2 * (screen.toggleAll places).2 =
      screen.lit + places.length := by
  induction places generalizing screen with
  | nil => rfl
  | cons place rest ih =>
    obtain ⟨x, y⟩ := place
    have hfirst := screen.lit_toggle x y
    have hrest := ih (screen.toggle x y).1
    rw [toggleAll_cons, List.length_cons]
    dsimp only
    omega

/-- How many of the places come to a cell once they are wrapped around the edges. -/
def hits (places : List (Nat × Nat)) (px py : Nat) : Nat :=
  places.countP fun place => place.1 % 64 = px ∧ place.2 % 32 = py

theorem count_cells (places : List (Nat × Nat)) (px : Fin 64) (py : Fin 32) :
    (cells places).count (cell px py) = hits places px py := by
  rw [List.count, cells, List.countP_map, hits]
  refine List.countP_congr fun place _ => ?_
  simp only [Function.comp_apply, beq_iff_eq, cell_eq_iff, decide_eq_true_eq,
    Nat.mod_eq_of_lt px.isLt, Nat.mod_eq_of_lt py.isLt]

theorem isLit_toggleAll_eq (screen : Screen) (places : List (Nat × Nat)) (px : Fin 64)
    (py : Fin 32) :
    (screen.toggleAll places).1.isLit px py =
      (screen.isLit px py ^^ decide (hits places px py % 2 = 1)) := by
  rw [isLit_toggleAll, count_cells]

/-- No order shows in the screen, and so none in how many pixels are erased. -/
theorem toggleAll_perm (hperm : reordered.Perm places) :
    screen.toggleAll reordered = screen.toggleAll places := by
  have hpixels : (screen.toggleAll reordered).1.pixels = (screen.toggleAll places).1.pixels := by
    refine pixels_ext fun px py => ?_
    rw [isLit_toggleAll_eq, isLit_toggleAll_eq, hits, hits, hperm.countP_eq]
  have hdirty : (screen.toggleAll reordered).1.dirty = (screen.toggleAll places).1.dirty := by
    rw [dirty_toggleAll, dirty_toggleAll, hperm.isEmpty_eq]
  have herased : (screen.toggleAll reordered).2 = (screen.toggleAll places).2 := by
    have hreordered := screen.lit_toggleAll reordered
    have hplaces := screen.lit_toggleAll places
    have hlength := hperm.length_eq
    simp only [lit, hpixels] at hreordered hplaces
    omega
  exact Prod.ext (congrArg₂ Screen.mk hpixels hdirty) herased

/-- **Pixels in any order.** Inverting a list of places changes the cells to which an odd number of
them comes, wrapped around the edges. A list in another order gives the same screen and the same
number of erased pixels, which is known from how many are lit before and after. Inverting the list
once more restores the picture. -/
theorem toggles_by_parity_and_count (screen : Screen) (places : List (Nat × Nat)) :
    let toggled := screen.toggleAll places
    (∀ (px : Fin 64) (py : Fin 32),
        toggled.1.isLit px py = (screen.isLit px py ^^ decide (hits places px py % 2 = 1))) ∧
      (∀ reordered : List (Nat × Nat), reordered.Perm places →
        screen.toggleAll reordered = toggled) ∧
      (toggled.1.lit : Int) = screen.lit + places.length - 2 * toggled.2 ∧
      (toggled.1.toggleAll places).1.pixels = screen.pixels := by
  intro toggled
  have hlit : toggled.1.lit + 2 * toggled.2 = screen.lit + places.length :=
    screen.lit_toggleAll places
  refine ⟨screen.isLit_toggleAll_eq places, fun reordered hperm => toggleAll_perm hperm,
    by omega, pixels_ext fun px py => ?_⟩
  rw [isLit_toggleAll_eq, isLit_toggleAll_eq, Bool.xor_assoc, Bool.xor_self, Bool.xor_false]

end Screen

end Chip8
