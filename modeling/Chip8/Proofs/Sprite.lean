import Chip8.Display
import Mathlib.Data.List.Nodup

/-!
# Drawing, cell by cell

A sprite flips the cells of a list of targets one after the other. The targets lie inside the grid
and no cell occurs twice among them, so a drawing is an exclusive or of every cell with the pixel
that the sprite has there, and it collides if some lit cell has one.
-/

namespace Chip8.Display

/-- Whether a sprite with its top left corner at `(x, y)` has a pixel in a cell. -/
def covers (x y : Nat) (sprite : List UInt8) (column row : Nat) : Bool :=
  decide (x ≤ column ∧ column < x + 8 ∧ y ≤ row) &&
    (sprite[row - y]?).any fun bits => bits.toNat.testBit (7 - (column - x))

/-- As `covers`, for a cell given by its number in the grid counted row by row. -/
def coversPlace (display : Display) (x y : Nat) (sprite : List UInt8) (place : Nat) : Bool :=
  covers x y sprite (place % display.width.toNat) (place / display.width.toNat)

/-- The display with every cell flipped that the sprite has a pixel in. -/
def blit (display : Display) (x y : Nat) (sprite : List UInt8) : Display :=
  { display with
    cells := display.cells.mapIdx fun place cell => cell != display.coversPlace x y sprite place }

/-- Whether the sprite has a pixel in a lit cell. -/
def collides (display : Display) (x y : Nat) (sprite : List UInt8) : Bool :=
  (List.range display.cells.size).any fun place =>
    display.cells.getD place false && display.coversPlace x y sprite place

/-- The display is a full grid of `width` by `height` cells. -/
structure HasSize (display : Display) (width height : Nat) : Prop where
  width_eq : display.width = width
  height_eq : display.height = height
  size_eq : display.cells.size = width * height

theorem hasSize_blank : blank.HasSize 64 32 :=
  ⟨rfl, rfl, Array.size_replicate⟩

theorem HasSize.clear {display : Display} {width height : Nat}
    (hsize : display.HasSize width height) : display.clear.HasSize width height := by
  refine ⟨hsize.width_eq, hsize.height_eq, ?_⟩
  rw [Display.clear, blankCells, Array.size_replicate, hsize.width_eq, hsize.height_eq,
    ← Int.natCast_mul, Int.toNat_natCast]

theorem HasSize.clear_eq_blank {display : Display} (hsize : display.HasSize 64 32) :
    display.clear = blank := by
  rw [Display.clear, hsize.width_eq, hsize.height_eq]
  rfl

theorem HasSize.blit {display : Display} {width height : Nat}
    (hsize : display.HasSize width height) (x y : Nat) (sprite : List UInt8) :
    (display.blit x y sprite).HasSize width height := by
  refine ⟨hsize.width_eq, hsize.height_eq, ?_⟩
  rw [Display.blit, Array.size_mapIdx]
  exact hsize.size_eq

theorem covers_cons (x y : Nat) (bits : UInt8) (rest : List UInt8) (column row : Nat) :
    covers x y (bits :: rest) column row = true ↔
      (row = y ∧ x ≤ column ∧ column < x + 8 ∧ bits.toNat.testBit (7 - (column - x)) = true) ∨
        covers x (y + 1) rest column row = true := by
  simp only [covers, Bool.and_eq_true, decide_eq_true_eq]
  by_cases heq : row = y
  · subst heq
    have hnot : ¬row + 1 ≤ row := by omega
    simp [hnot]
    tauto
  · by_cases hle : y ≤ row
    · obtain ⟨offset, rfl⟩ : ∃ offset, row = y + 1 + offset := ⟨row - (y + 1), by omega⟩
      have hhere : y + 1 + offset - y = offset + 1 := by omega
      have hnext : y + 1 + offset - (y + 1) = offset := by omega
      simp [hhere, hnext, heq]
      omega
    · simp [heq, hle]
      omega

theorem row_end_le {height row : Nat} (hrow : row < height) (width : Nat) :
    row * width + width ≤ width * height := by
  calc
    row * width + width = (row + 1) * width := (Nat.succ_mul row width).symm
    _ ≤ height * width := Nat.mul_le_mul_right width hrow
    _ = width * height := Nat.mul_comm height width

theorem mod_place {width column : Nat} (hcolumn : column < width) (row : Nat) :
    (row * width + column) % width = column := by
  rw [Nat.mul_comm, Nat.mul_add_mod, Nat.mod_eq_of_lt hcolumn]

theorem div_place {width column : Nat} (hcolumn : column < width) (row : Nat) :
    (row * width + column) / width = row := by
  rw [Nat.mul_comm, Nat.mul_add_div (Nat.zero_lt_of_lt hcolumn), Nat.div_eq_of_lt hcolumn,
    Nat.add_zero]

section Targets

variable {display : Display} {width height : Nat}

theorem mem_rowTargets (hsize : display.HasSize width height) {x y : Nat} {bits : UInt8}
    {target : Int} :
    target ∈ display.rowTargets x y bits ↔
      ∃ column, column < width ∧ y < height ∧ x ≤ column ∧ column < x + 8 ∧
        bits.toNat.testBit (7 - (column - x)) = true ∧ target = (y * width + column : Nat) := by
  have hrow : ((y : Int) < display.height) ↔ y < height := by
    rw [hsize.height_eq]
    omega
  rw [rowTargets, hsize.width_eq]
  simp only [hrow]
  split
  · simp only [List.mem_filterMap, List.mem_range, Option.ite_none_right_eq_some,
      Option.some.injEq]
    constructor
    · rintro ⟨offset, hoffset, ⟨hcolumn, hbit⟩, rfl⟩
      have hright : offset < 8 := hoffset
      refine ⟨x + offset, by omega, by assumption, by omega, by omega, ?_, by push_cast; rfl⟩
      rw [Nat.add_sub_cancel_left]
      exact hbit
    · rintro ⟨column, hcolumn, -, hleft, hright, hbit, rfl⟩
      have hoffset : column - x < 8 := by omega
      refine ⟨column - x, hoffset, ⟨by omega, hbit⟩, ?_⟩
      push_cast
      omega
  · simp
    omega

theorem mem_targets (hsize : display.HasSize width height) {x y : Nat} {sprite : List UInt8}
    {target : Int} :
    target ∈ display.targets x y sprite ↔
      ∃ column row, column < width ∧ row < height ∧ covers x y sprite column row = true ∧
        target = (row * width + column : Nat) := by
  induction sprite generalizing y with
  | nil => simp [targets, covers]
  | cons bits rest ih =>
      have hnext := ih (y := y + 1)
      rw [Int.natCast_succ] at hnext
      rw [targets, List.mem_append, mem_rowTargets hsize, hnext]
      simp only [covers_cons]
      constructor
      · rintro (⟨column, hcolumn, hrow, hleft, hright, hbit, htarget⟩ |
          ⟨column, row, hcolumn, hrow, hcovers, htarget⟩)
        · exact ⟨column, y, hcolumn, hrow, Or.inl ⟨rfl, hleft, hright, hbit⟩, htarget⟩
        · exact ⟨column, row, hcolumn, hrow, Or.inr hcovers, htarget⟩
      · rintro ⟨column, row, hcolumn, hrow, ⟨rfl, hleft, hright, hbit⟩ | hcovers, htarget⟩
        · exact Or.inl ⟨column, hcolumn, hrow, hleft, hright, hbit, htarget⟩
        · exact Or.inr ⟨column, row, hcolumn, hrow, hcovers, htarget⟩

theorem nodup_rowTargets (display : Display) (x y : Int) (bits : UInt8) :
    (display.rowTargets x y bits).Nodup := by
  rw [rowTargets]
  split
  · apply List.Nodup.filterMap _ List.nodup_range
    intro left right target hleft hright
    simp only [Option.mem_def, Option.ite_none_right_eq_some, Option.some.injEq] at hleft hright
    omega
  · exact List.nodup_nil

/-- A row of the sprite starts no cell of a later row. -/
theorem nodup_targets (hsize : display.HasSize width height) (x y : Nat) (sprite : List UInt8) :
    (display.targets x y sprite).Nodup := by
  induction sprite generalizing y with
  | nil => exact List.nodup_nil
  | cons bits rest ih =>
      have hnext := ih (y + 1)
      rw [Int.natCast_succ] at hnext
      rw [targets]
      refine List.Nodup.append (nodup_rowTargets display x y bits) hnext ?_
      intro target hhere hlater
      obtain ⟨column, hcolumn, -, -, -, -, rfl⟩ := (mem_rowTargets hsize).mp hhere
      -- A later row of the sprite is a lower row of the grid, and its cells have larger numbers.
      have hlater' : ((y * width + column : Nat) : Int) ∈
          display.targets x ((y + 1 : Nat) : Int) rest := hlater
      obtain ⟨other, row, hother, -, hcovers, htarget⟩ := (mem_targets hsize).mp hlater'
      simp only [covers, Bool.and_eq_true, decide_eq_true_eq] at hcovers
      have hbelow : (y + 1) * width ≤ row * width := Nat.mul_le_mul_right width hcovers.1.2.2
      have hplace : y * width + column = row * width + other := by exact_mod_cast htarget
      rw [Nat.add_mul, Nat.one_mul] at hbelow
      omega

theorem natCast_mem_targets (hsize : display.HasSize width height) {x y : Nat}
    {sprite : List UInt8} {place : Nat} (hplace : place < display.cells.size) :
    (place : Int) ∈ display.targets x y sprite ↔ display.coversPlace x y sprite place = true := by
  rw [hsize.size_eq] at hplace
  have hwidth : 0 < width := Nat.pos_of_ne_zero fun hzero => by simp [hzero] at hplace
  rw [mem_targets hsize, coversPlace, hsize.width_eq, Int.toNat_natCast]
  constructor
  · rintro ⟨column, row, hcolumn, -, hcovers, htarget⟩
    have heq : place = row * width + column := by exact_mod_cast htarget
    rw [heq, mod_place hcolumn, div_place hcolumn]
    exact hcovers
  · intro hcovers
    refine ⟨place % width, place / width, Nat.mod_lt place hwidth, ?_, hcovers, ?_⟩
    · exact Nat.div_lt_of_lt_mul hplace
    · rw [Nat.mul_comm, Nat.div_add_mod]

end Targets

/-- Flipping distinct cells of the grid in turn flips each of them, and collides if one was lit. -/
theorem flip_eq {display : Display} {places : List Int} (hnodup : places.Nodup)
    (hinside : ∀ place ∈ places, 0 ≤ place ∧ place < display.cells.size) (collision : Bool) :
    display.flip collision places =
      { display := { display with
          cells := display.cells.mapIdx fun place cell => cell != decide ((place : Int) ∈ places) }
        collision := .ok (collision || places.any fun place =>
          display.cells.getD place.toNat false) } := by
  induction places generalizing display collision with
  | nil =>
      have hcells : display.cells.mapIdx (fun place cell => cell != decide ((place : Int) ∈ [])) =
          display.cells := by
        apply Array.ext_getElem?
        intro place
        simp
      rw [flip, hcells]
      simp
  | cons first rest ih =>
      obtain ⟨hfirst, hrest⟩ := List.nodup_cons.mp hnodup
      obtain ⟨place, rfl⟩ : ∃ place : Nat, first = place :=
        Int.eq_ofNat_of_zero_le (hinside first List.mem_cons_self).1
      have hplace : place < display.cells.size := by
        exact_mod_cast (hinside place List.mem_cons_self).2
      have hinside' : ∀ other ∈ rest,
          0 ≤ other ∧ other < (display.cells.modify place not).size := by
        intro other hother
        rw [Array.size_modify]
        exact hinside other (List.mem_cons_of_mem _ hother)
      have hcells : (display.cells.modify place not).mapIdx
            (fun other cell => cell != decide ((other : Int) ∈ rest)) =
          display.cells.mapIdx fun other cell =>
            cell != decide ((other : Int) ∈ (place : Int) :: rest) := by
        apply Array.ext_getElem?
        intro other
        rw [Array.getElem?_mapIdx, Array.getElem?_mapIdx, Array.getElem?_modify]
        by_cases heq : place = other
        · subst heq
          simp [hfirst, Function.comp_def]
        · have hne : ¬(other : Int) = place := by omega
          simp [heq, hne]
      -- Flipping the first cell does not show in the collisions of the others, which are other
      -- cells.
      have hlit : (rest.any fun other =>
            (display.cells.modify place not).getD other.toNat false) =
          rest.any fun other => display.cells.getD other.toNat false := by
        rw [Bool.eq_iff_iff, List.any_eq_true, List.any_eq_true]
        refine exists_congr fun other => and_congr_right fun hother => ?_
        have hne : place ≠ other.toNat := by
          intro heq
          have hnonneg := (hinside other (List.mem_cons_of_mem _ hother)).1
          exact hfirst ((by omega : other = place) ▸ hother)
        simp only [Array.getD_eq_getD_getElem?, Array.getElem?_modify, if_neg hne]
      rw [flip, SignedIndex.resolve?_ofNat hplace]
      simp only
      rw [ih hrest hinside', hcells, hlit, List.any_cons, Int.toNat_natCast, Bool.or_assoc]

theorem targets_inside {display : Display} {width height : Nat}
    (hsize : display.HasSize width height) {x y : Nat} {sprite : List UInt8} {place : Int}
    (hmem : place ∈ display.targets x y sprite) : 0 ≤ place ∧ place < display.cells.size := by
  obtain ⟨column, row, hcolumn, hrow, -, rfl⟩ := (mem_targets hsize).mp hmem
  have hbelow : row * width + column < width * height := by
    have hmul := Nat.mul_le_mul_right width (Nat.succ_le_of_lt hrow)
    rw [Nat.succ_mul, Nat.mul_comm height] at hmul
    omega
  rw [hsize.size_eq]
  omega

theorem draw_eq_blit {display : Display} {width height : Nat}
    (hsize : display.HasSize width height) (x y : Nat) (sprite : List UInt8) :
    display.draw x y sprite =
      { display := display.blit x y sprite
        collision := .ok (display.collides x y sprite) } := by
  have hinside : ∀ place ∈ display.targets x y sprite, 0 ≤ place ∧ place < display.cells.size :=
    fun _ hmem => targets_inside hsize hmem
  rw [draw, flip_eq (nodup_targets hsize x y sprite) hinside]
  have hcells : display.cells.mapIdx (fun place cell =>
        cell != decide ((place : Int) ∈ display.targets x y sprite)) =
      display.cells.mapIdx fun place cell => cell != display.coversPlace x y sprite place := by
    apply Array.ext
    · simp
    · intro place hleft hright
      have hplace : place < display.cells.size := by simpa using hleft
      have hdecide : decide ((place : Int) ∈ display.targets x y sprite) =
          display.coversPlace x y sprite place := by
        rw [Bool.eq_iff_iff, decide_eq_true_iff]
        exact natCast_mem_targets hsize hplace
      rw [Array.getElem_mapIdx, Array.getElem_mapIdx, hdecide]
  have hlit : ((display.targets x y sprite).any fun place =>
      display.cells.getD place.toNat false) = display.collides x y sprite := by
    rw [Bool.eq_iff_iff, collides, List.any_eq_true, List.any_eq_true]
    constructor
    · rintro ⟨target, hmem, hlit⟩
      obtain ⟨place, rfl⟩ := Int.eq_ofNat_of_zero_le (hinside target hmem).1
      have hplace : place < display.cells.size := by exact_mod_cast (hinside place hmem).2
      refine ⟨place, List.mem_range.mpr hplace, ?_⟩
      rw [Bool.and_eq_true]
      exact ⟨hlit, (natCast_mem_targets hsize hplace).mp hmem⟩
    · rintro ⟨place, hrange, hboth⟩
      rw [Bool.and_eq_true] at hboth
      have hplace := List.mem_range.mp hrange
      exact ⟨place, (natCast_mem_targets hsize hplace).mpr hboth.2, hboth.1⟩
  rw [hcells, hlit, Bool.false_or, blit]

end Chip8.Display
