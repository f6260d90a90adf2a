import Chip8.Proofs.Block
import Chip8.Proofs.Sprite

/-!
# Drawing on grids of any size

A drawing is an exclusive or on the cells of the grid, seen through their columns and rows: a pixel
of the sprite that falls outside flips no cell, and none of it comes back in another row or column.
The sides of a grid may be any integers. Where one of them is not positive there are no cells to
draw on.
-/

namespace Chip8.Display

/-- The grid has as many cells as its sides say. -/
def Full (display : Display) : Prop :=
  (display.cells.size : Int) = display.width * display.height

variable {display : Display}

theorem full_of_ofSize {width height : Int} (hbuilt : ofSize width height = .ok display) :
    display.Full := by
  unfold ofSize at hbuilt
  split at hbuilt
  · cases hbuilt
  · cases hbuilt
    unfold Full blankCells
    simp only [Array.size_replicate]
    omega

theorem Full.hasSize (hfull : display.Full) (hwidth : 0 ≤ display.width)
    (hheight : 0 ≤ display.height) :
    display.HasSize display.width.toNat display.height.toNat := by
  unfold Full at hfull
  refine ⟨by omega, by omega, ?_⟩
  rw [← Int.toNat_mul hwidth hheight, ← hfull, Int.toNat_natCast]

theorem targets_of_flat (hflat : display.width ≤ 0 ∨ display.height ≤ 0) (x y : Nat)
    (sprite : List UInt8) : display.targets x y sprite = [] := by
  induction sprite generalizing y with
  | nil => simp [targets]
  | cons bits rest ih =>
      have hnext := ih (y + 1)
      push_cast at hnext
      rw [targets, hnext, List.append_nil]
      unfold rowTargets
      split
      · simp only [List.filterMap_eq_nil_iff, ite_eq_right_iff]
        omega
      · rfl

/-! ### Cells by column and row -/

section Cells

variable {width height column row : Nat}

theorem HasSize.coversPlace_eq (hsize : display.HasSize width height) (hcolumn : column < width)
    (x y row : Nat) (sprite : List UInt8) :
    display.coversPlace x y sprite (row * width + column) = covers x y sprite column row := by
  unfold coversPlace
  rw [hsize.width_eq, Int.toNat_natCast, mod_place hcolumn, div_place hcolumn]

theorem HasSize.place_lt (hsize : display.HasSize width height) (hcolumn : column < width)
    (hrow : row < height) : row * width + column < display.cells.size := by
  calc
    row * width + column < row * width + width := Nat.add_lt_add_left hcolumn _
    _ ≤ width * height := row_end_le hrow width
    _ = display.cells.size := hsize.size_eq.symm

theorem HasSize.lit_eq (hsize : display.HasSize width height) (hcolumn : column < width)
    (hrow : row < height) :
    display.lit column row = .ok (display.cells.getD (row * width + column) false) := by
  have hplace : (row : Int) * display.width + column = (row * width + column : Nat) := by
    rw [hsize.width_eq]
    push_cast
    rfl
  unfold lit
  rw [hplace, SignedIndex.get?_ofNat (hsize.place_lt hcolumn hrow) false]

theorem HasSize.lit_blit (hsize : display.HasSize width height) (hcolumn : column < width)
    (hrow : row < height) (x y : Nat) (sprite : List UInt8) :
    (display.blit x y sprite).lit column row =
      .ok (display.cells.getD (row * width + column) false ^^ covers x y sprite column row) := by
  have hplace := hsize.place_lt hcolumn hrow
  rw [(hsize.blit x y sprite).lit_eq hcolumn hrow, ← hsize.coversPlace_eq hcolumn]
  unfold Display.blit
  simp [hplace]

theorem HasSize.collides_iff (hsize : display.HasSize width height) (x y : Nat)
    (sprite : List UInt8) :
    display.collides x y sprite = true ↔
      ∃ column row, column < width ∧ row < height ∧ display.lit column row = .ok true ∧
        covers x y sprite column row = true := by
  unfold collides
  simp only [List.any_eq_true, List.mem_range, Bool.and_eq_true]
  constructor
  · rintro ⟨place, hplace, hlit, hcovers⟩
    rw [hsize.size_eq] at hplace
    have hwidth : 0 < width := by
      by_contra hzero
      simp [Nat.eq_zero_of_not_pos hzero] at hplace
    have hcolumn := Nat.mod_lt place hwidth
    have hrow : place / width < height := Nat.div_lt_of_lt_mul hplace
    refine ⟨place % width, place / width, hcolumn, hrow, ?_, ?_⟩
    · rw [hsize.lit_eq hcolumn hrow, Nat.div_add_mod', hlit]
    · rw [← hsize.coversPlace_eq hcolumn, Nat.div_add_mod', hcovers]
  · rintro ⟨column, row, hcolumn, hrow, hlit, hcovers⟩
    refine ⟨row * width + column, hsize.place_lt hcolumn hrow, ?_, ?_⟩
    · simpa [hsize.lit_eq hcolumn hrow] using hlit
    · rw [hsize.coversPlace_eq hcolumn, hcovers]

end Cells

/-! ### Any sides -/

/-- A drawing flips exactly the cells that the sprite has a pixel in, and collides if one of them
was lit. It never fails. -/
theorem Full.draw_clipped (hfull : display.Full) (x y : Nat) (sprite : List UInt8) :
    ∃ after collision,
      display.draw x y sprite = { display := after, collision := .ok collision } ∧
      after.width = display.width ∧ after.height = display.height ∧ after.Full ∧
      (∀ column row : Nat, column < display.width → row < display.height →
        ∃ lit, display.lit column row = .ok lit ∧
          after.lit column row = .ok (lit ^^ covers x y sprite column row)) ∧
      (collision = true ↔
        ∃ column row : Nat, column < display.width ∧ row < display.height ∧
          display.lit column row = .ok true ∧ covers x y sprite column row = true) := by
  by_cases hflat : display.width ≤ 0 ∨ display.height ≤ 0
  · have hdraw : display.draw x y sprite = { display, collision := .ok false } := by
      unfold draw
      rw [targets_of_flat hflat, flip]
    refine ⟨display, false, hdraw, rfl, rfl, hfull, ?_, ?_⟩
    · intro column row hcolumn hrow
      omega
    · simp only [Bool.false_eq_true, false_iff, not_exists]
      rintro column row ⟨hcolumn, hrow, -⟩
      omega
  · have hsize := hfull.hasSize (by omega) (by omega)
    have hinside : ∀ column row : Nat, column < display.width ∧ row < display.height ↔
        column < display.width.toNat ∧ row < display.height.toNat := by omega
    refine ⟨_, _, draw_eq_blit hsize x y sprite, rfl, rfl, ?_, ?_, ?_⟩
    · simpa [Full, blit] using hfull
    · intro column row hcolumn hrow
      obtain ⟨hleft, habove⟩ := (hinside column row).mp ⟨hcolumn, hrow⟩
      exact ⟨_, hsize.lit_eq hleft habove, hsize.lit_blit hleft habove x y sprite⟩
    · simp only [hsize.collides_iff, ← and_assoc, hinside]

/-- A grid of ten columns and three rows whose last cell is lit. -/
def litCorner : Display :=
  { width := 10, height := 3, cells := (blankCells 10 3).setIfInBounds 29 true }

theorem full_litCorner : litCorner.Full := by
  have hbuilt : ofSize 10 3 = .ok { width := 10, height := 3, cells := blankCells 10 3 } := rfl
  have hfull := full_of_ofSize hbuilt
  simpa [Full, litCorner] using hfull

/-- Of a sprite of two rows in the lower right corner only two pixels are on the grid. One of them
meets the lit cell. -/
theorem draw_clipped_litCorner :
    ∃ after, litCorner.draw (8 : Nat) (2 : Nat) [0xFF, 0xFF] =
        { display := after, collision := .ok true } ∧
      after.lit 8 2 = .ok true ∧ after.lit 9 2 = .ok false ∧ after.lit 0 0 = .ok false := by
  obtain ⟨after, collision, hdraw, -, -, -, hcells, hcollision⟩ :=
    full_litCorner.draw_clipped 8 2 [0xFF, 0xFF]
  have hmeets : collision = true :=
    hcollision.mpr ⟨9, 2, by decide, by decide, by decide, by decide⟩
  have hcell : ∀ column row : Nat, column < litCorner.width → row < litCorner.height →
      ∀ lit, litCorner.lit column row = .ok lit →
        after.lit column row = .ok (lit ^^ covers 8 2 [0xFF, 0xFF] column row) := by
    intro column row hcolumn hrow lit hlit
    obtain ⟨_, hbefore, hafter⟩ := hcells column row hcolumn hrow
    rw [hlit] at hbefore
    cases hbefore
    exact hafter
  refine ⟨after, ?_, ?_, ?_, ?_⟩
  · rw [hdraw, hmeets]
  · exact hcell 8 2 (by decide) (by decide) false (by decide)
  · exact hcell 9 2 (by decide) (by decide) true (by decide)
  · exact hcell 0 0 (by decide) (by decide) false (by decide)

end Chip8.Display
