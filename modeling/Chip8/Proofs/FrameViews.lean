import Chip8.Proofs.Clipping
import Mathlib.Data.Finset.Prod
import Mathlib.Data.List.ProdSigma

/-!
# The views of a frame

A frame has its pixels in one sequence, row by row. The question for a pixel, the list of the rows,
the text and the count each find their own way through it. On a bitmap, whose pixels are zero or
one, they all say the same, and the lines of the text give the whole sequence back.
-/

namespace Chip8.Frame

/-- The frame has `height` rows of `width` pixels, and each pixel is zero or one. -/
structure IsBitmap (frame : Frame) (width height : Nat) : Prop where
  width_eq : frame.width = width
  height_eq : frame.height = height
  size_eq : frame.pixels.size = width * height
  bit {pixel : UInt8} (hmem : pixel ∈ frame.pixels) : pixel = 0 ∨ pixel = 1

/-- Characters that show in a text which pixels are lit. -/
structure Inks (on off : Char) : Prop where
  ne : on ≠ off
  on_ne : on ≠ '\n'
  off_ne : off ≠ '\n'

def ink (on off : Char) (lit : Bool) : Char :=
  if lit then on else off

def pixelAt (frame : Frame) (width column row : Nat) : UInt8 :=
  frame.pixels.getD (row * width + column) 0

def written (frame : Frame) (on off : Char) : String :=
  frame.toText (String.singleton on) (String.singleton off)

/-- The written frame, cut where a line ends. -/
def textLines (frame : Frame) (on off : Char) : List (List Char) :=
  (frame.written on off).toList.splitOn '\n'

/-- One pixel for each character of some lines. -/
def pixelsOfLines (on : Char) (lines : List (List Char)) : List UInt8 :=
  lines.flatten.map fun c => if c = on then 1 else 0

/-- The cell of a grid that is given as the list of its rows. -/
def cellAt? {α : Type} (grid : List (List α)) (column row : Nat) : Option α :=
  grid[row]?.bind (·[column]?)

variable {frame : Frame} {width height : Nat}

/-! ### Row by row -/

/-- A sequence is its blocks of `width` items one after the other. -/
theorem flatMap_getD {α : Type} {items : Array α} {width height : Nat}
    (hsize : height * width ≤ items.size) (fallback : α) :
    (List.range height).flatMap (fun row => (List.range width).map fun column =>
      items.getD (row * width + column) fallback) = items.toList.take (height * width) := by
  induction height with
  | zero => simp
  | succ height ih =>
      rw [Nat.succ_mul] at hsize ⊢
      -- The last row is what follows the rows before it.
      have hrow : (List.range width).map
            (fun column => items.getD (height * width + column) fallback) =
          (items.toList.drop (height * width)).take width := by
        apply List.ext_getElem
        · simp
          omega
        · intro column hleft hright
          have hcolumn : column < width := by simpa using hleft
          have hplace : height * width + column < items.size := by omega
          simp [hplace]
      rw [List.range_succ, List.flatMap_append, List.flatMap_singleton, ih (by omega), hrow,
        List.take_add]

theorem IsBitmap.toList_pixels (hbitmap : frame.IsBitmap width height) :
    frame.pixels.toList = (List.range height).flatMap fun row =>
      (List.range width).map fun column => frame.pixelAt width column row := by
  have hsize : frame.pixels.size = height * width := by
    rw [hbitmap.size_eq, Nat.mul_comm]
  have hblocks := flatMap_getD (Nat.le_of_eq hsize.symm) 0
  rw [← hsize, ← Array.length_toList, List.take_length] at hblocks
  exact hblocks.symm

/-- The pixels in the order of their places, each of them a row and a column. -/
theorem IsBitmap.map_pixelAt (hbitmap : frame.IsBitmap width height) :
    (List.range height ×ˢ List.range width).map
        (fun place => frame.pixelAt width place.2 place.1) = frame.pixels.toList := by
  have hplaces : List.range height ×ˢ List.range width =
      (List.range height).flatMap fun row => (List.range width).map (Prod.mk row) := rfl
  rw [hbitmap.toList_pixels, hplaces, List.map_flatMap]
  simp only [List.map_map, Function.comp_def]

theorem IsBitmap.rows_eq (hbitmap : frame.IsBitmap width height) :
    frame.rows = (List.range height).map fun row =>
      (List.range width).map fun column => isLit (frame.pixelAt width column row) := by
  rw [rows, rowNumbers, hbitmap.height_eq, hbitmap.width_eq, Int.toNat_natCast, List.map_map]
  apply List.map_congr_left
  intro row hrow
  have hend := Display.row_end_le (List.mem_range.mp hrow) width
  rw [← hbitmap.size_eq] at hend
  have hblock := SignedIndex.toList_block hend 0
  push_cast at hblock
  simp only [Function.comp_apply, Int.ofNat_eq_natCast, hblock, List.map_map]
  rfl

theorem IsBitmap.lit?_eq (hbitmap : frame.IsBitmap width height) {column row : Nat}
    (hcolumn : column < width) (hrow : row < height) :
    frame.lit? column row = some (isLit (frame.pixelAt width column row)) := by
  have hend := Display.row_end_le hrow width
  have hplace : row * width + column < frame.pixels.size := by
    rw [hbitmap.size_eq]
    omega
  have hget := SignedIndex.get?_ofNat hplace 0
  push_cast at hget
  rw [lit?, hbitmap.width_eq, hget]
  rfl

theorem IsBitmap.length_rows (hbitmap : frame.IsBitmap width height) :
    frame.rows.length = height := by
  rw [hbitmap.rows_eq, List.length_map, List.length_range]

theorem IsBitmap.length_of_mem_rows (hbitmap : frame.IsBitmap width height) {row : List Bool}
    (hrow : row ∈ frame.rows) : row.length = width := by
  rw [hbitmap.rows_eq] at hrow
  obtain ⟨number, -, rfl⟩ := List.mem_map.mp hrow
  rw [List.length_map, List.length_range]

theorem IsBitmap.cellAt?_rows (hbitmap : frame.IsBitmap width height) {column row : Nat}
    (hcolumn : column < width) (hrow : row < height) :
    cellAt? frame.rows column row = some (isLit (frame.pixelAt width column row)) := by
  rw [cellAt?, hbitmap.rows_eq]
  simp [hcolumn, hrow]

theorem IsBitmap.flatten_rows (hbitmap : frame.IsBitmap width height) :
    frame.rows.flatten = frame.pixels.toList.map isLit := by
  rw [hbitmap.rows_eq, hbitmap.toList_pixels, List.map_flatMap, List.flatMap_def]
  simp only [List.map_map, Function.comp_def]

/-! ### The text -/

section Text

variable {on off : Char}

theorem toList_rowText (on off : Char) (row : List Bool) :
    (rowText (String.singleton on) (String.singleton off) row).toList = row.map (ink on off) := by
  have hchar : ∀ lit : Bool,
      (if lit then String.singleton on else String.singleton off).toList = [ink on off lit] := by
    intro lit
    cases lit <;> simp [ink]
  rw [rowText, String.toList_join, List.flatMap_map, List.map_eq_flatMap]
  simp only [hchar]

theorem Inks.ink_eq_iff (hinks : Inks on off) (lit : Bool) : ink on off lit = on ↔ lit = true := by
  cases lit <;> simp [ink, hinks.ne.symm]

theorem Inks.ink_ne_newline (hinks : Inks on off) (lit : Bool) : ink on off lit ≠ '\n' := by
  cases lit
  · exact hinks.off_ne
  · exact hinks.on_ne

theorem textLines_eq (hinks : Inks on off) (hrows : frame.rows ≠ []) :
    frame.textLines on off = frame.rows.map (List.map (ink on off)) := by
  have hlines : frame.rows.map (String.toList ∘
      rowText (String.singleton on) (String.singleton off)) =
        frame.rows.map (List.map (ink on off)) :=
    List.map_congr_left fun row _ => toList_rowText on off row
  rw [textLines, written, toText, String.toList_intercalate, List.map_map, hlines]
  refine List.splitOn_intercalate '\n' ?_ (by simpa using hrows)
  -- Inks do not end a line, so that the text is cut between its rows only.
  intro line hline hnewline
  obtain ⟨row, -, rfl⟩ := List.mem_map.mp hline
  obtain ⟨lit, -, hlit⟩ := List.mem_map.mp hnewline
  exact hinks.ink_ne_newline lit hlit

theorem cellAt?_map {α β : Type} (change : α → β) (grid : List (List α)) (column row : Nat) :
    cellAt? (grid.map (List.map change)) column row = (cellAt? grid column row).map change := by
  rw [cellAt?, cellAt?, List.getElem?_map]
  cases grid[row]? <;> simp

theorem IsBitmap.pixelsOfLines_textLines (hbitmap : frame.IsBitmap width height)
    (hinks : Inks on off) (hrows : frame.rows ≠ []) :
    pixelsOfLines on (frame.textLines on off) = frame.pixels.toList := by
  have hread : ∀ pixel ∈ frame.pixels.toList,
      (if ink on off (isLit pixel) = on then 1 else 0) = pixel := by
    intro pixel hpixel
    simp only [hinks.ink_eq_iff]
    obtain rfl | rfl := hbitmap.bit (Array.mem_toList_iff.mp hpixel) <;> rfl
  rw [pixelsOfLines, textLines_eq hinks hrows, ← List.map_flatten, hbitmap.flatten_rows,
    List.map_map, List.map_map]
  exact (List.map_congr_left hread).trans (List.map_id _)

end Text

/-! ### The count -/

theorem foldl_add_toNat {pixels : List UInt8} (hbit : ∀ pixel ∈ pixels, pixel = 0 ∨ pixel = 1)
    (count : Nat) :
    pixels.foldl (fun count pixel => count + pixel.toNat) count = count + pixels.countP isLit := by
  induction pixels generalizing count with
  | nil => rfl
  | cons pixel pixels ih =>
      obtain ⟨hpixel, hbit⟩ := List.forall_mem_cons.mp hbit
      rw [List.foldl_cons, ih hbit, List.countP_cons]
      obtain rfl | rfl := hpixel
      · rfl
      · change count + 1 + _ = count + (_ + 1)
        omega

theorem IsBitmap.litCount_eq_countP (hbitmap : frame.IsBitmap width height) :
    frame.litCount = frame.pixels.toList.countP isLit := by
  have hbit : ∀ pixel ∈ frame.pixels.toList, pixel = 0 ∨ pixel = 1 := fun pixel hpixel =>
    hbitmap.bit (Array.mem_toList_iff.mp hpixel)
  rw [litCount, ← Array.foldl_toList, foldl_add_toNat hbit, Nat.zero_add]

theorem IsBitmap.litCount_eq_card (hbitmap : frame.IsBitmap width height) :
    frame.litCount =
      ((Finset.range height ×ˢ Finset.range width).filter fun place =>
        frame.lit? place.2 place.1 = some true).card := by
  have hlit : ∀ place ∈ List.range height ×ˢ List.range width,
      (isLit ∘ fun place : Nat × Nat => frame.pixelAt width place.2 place.1) place = true ↔
        decide (frame.lit? place.2 place.1 = some true) = true := by
    intro place hplace
    obtain ⟨hrow, hcolumn⟩ := List.mem_product.mp hplace
    rw [hbitmap.lit?_eq (List.mem_range.mp hcolumn) (List.mem_range.mp hrow)]
    simp
  have hval : (Finset.range height ×ˢ Finset.range width).val =
      (List.range height ×ˢ List.range width : List (Nat × Nat)) := Multiset.coe_product ..
  rw [hbitmap.litCount_eq_countP, ← hbitmap.map_pixelAt, List.countP_map, List.countP_congr hlit,
    Finset.card_def, Finset.filter_val, ← Multiset.countP_eq_card_filter, hval,
    Multiset.coe_countP]

/-! ### All views -/

theorem isBitmap_frame {display : Display} (hsize : display.HasSize width height) :
    display.frame.IsBitmap width height where
  width_eq := hsize.width_eq
  height_eq := hsize.height_eq
  size_eq := by
    rw [Display.frame, Array.size_map]
    exact hsize.size_eq
  bit hmem := by
    obtain ⟨cell, -, rfl⟩ := Array.mem_map.mp hmem
    cases cell
    · exact Or.inl rfl
    · exact Or.inr rfl

theorem IsBitmap.eq_of_pixels (hbitmap : frame.IsBitmap width height) {other : Frame}
    (hother : other.IsBitmap width height) (hpixels : other.pixels = frame.pixels) :
    other = frame := by
  have hwidth := hother.width_eq.trans hbitmap.width_eq.symm
  have hheight := hother.height_eq.trans hbitmap.height_eq.symm
  cases other
  cases frame
  simp_all

/-- What a display shows is a bitmap. The answer for a pixel of a bitmap, its cell among the rows
and its character in the text say the same, the lines of the text give back the pixels, so that
bitmaps of one size are told apart by their text, and the count is the number of places that are
lit. -/
theorem views_agree (hheight : 0 < height) :
    (∀ display : Display, display.HasSize width height → display.frame.IsBitmap width height) ∧
    ∀ frame : Frame, frame.IsBitmap width height →
      (frame.rows.length = height ∧ ∀ row ∈ frame.rows, row.length = width) ∧
      (∀ column < width, ∀ row < height, ∃ lit,
        frame.lit? column row = some lit ∧ cellAt? frame.rows column row = some lit ∧
        ∀ on off, Inks on off → ∃ c, cellAt? (frame.textLines on off) column row = some c ∧
          (c = on ↔ lit = true)) ∧
      (∀ on off, Inks on off →
        pixelsOfLines on (frame.textLines on off) = frame.pixels.toList ∧
        ∀ other : Frame, other.IsBitmap width height →
          (other.written on off = frame.written on off ↔ other.pixels = frame.pixels)) ∧
      frame.litCount =
        ((Finset.range height ×ˢ Finset.range width).filter fun place =>
          frame.lit? place.2 place.1 = some true).card := by
  refine ⟨fun display hsize => isBitmap_frame hsize, fun frame hbitmap => ?_⟩
  have hrows {frame : Frame} (hbitmap : frame.IsBitmap width height) : frame.rows ≠ [] :=
    List.ne_nil_of_length_pos (hbitmap.length_rows ▸ hheight)
  refine ⟨⟨hbitmap.length_rows, fun row => hbitmap.length_of_mem_rows⟩, ?_, ?_,
    hbitmap.litCount_eq_card⟩
  · intro column hcolumn row hrow
    have hcell := hbitmap.cellAt?_rows hcolumn hrow
    refine ⟨_, hbitmap.lit?_eq hcolumn hrow, hcell, fun on off hinks => ?_⟩
    refine ⟨_, ?_, hinks.ink_eq_iff _⟩
    rw [textLines_eq hinks (hrows hbitmap), cellAt?_map, hcell, Option.map_some]
  · intro on off hinks
    have hread := hbitmap.pixelsOfLines_textLines hinks (hrows hbitmap)
    refine ⟨hread, fun other hother => ⟨fun htext => ?_, fun hpixels => ?_⟩⟩
    · have hotherRead := hother.pixelsOfLines_textLines hinks (hrows hother)
      rw [textLines, htext] at hotherRead
      exact Array.toList_inj.mp (hotherRead.symm.trans hread)
    · rw [hbitmap.eq_of_pixels hother hpixels]

/-- The one lit cell of the grid is seen in the lower right corner of the text. -/
theorem views_agree_litCorner :
    let frame := Display.litCorner.frame
    frame.lit? (9 : Nat) (2 : Nat) = some true ∧
      cellAt? (frame.textLines '#' '.') 9 2 = some '#' ∧
      pixelsOfLines '#' (frame.textLines '#' '.') = frame.pixels.toList ∧
      frame.written '#' '.' ≠ Display.litCorner.clear.frame.written '#' '.' ∧
      ((Finset.range 3 ×ˢ Finset.range 10).filter fun place =>
        frame.lit? place.2 place.1 = some true).card = 1 := by
  have hsize : Display.litCorner.HasSize 10 3 :=
    Display.full_litCorner.hasSize (by decide) (by decide)
  have hinks : Inks '#' '.' := ⟨by decide, by decide, by decide⟩
  have hlit : Display.litCorner.frame.lit? (9 : Nat) (2 : Nat) = some true := by decide +kernel
  have hcount : Display.litCorner.frame.litCount = 1 := by decide +kernel
  obtain ⟨hbitmaps, hviews⟩ := @views_agree 10 3 (by decide)
  obtain ⟨-, hplaces, htext, hcard⟩ := hviews _ (hbitmaps _ hsize)
  obtain ⟨lit, hanswer, -, hcharacter⟩ := hplaces 9 (by decide) 2 (by decide)
  obtain ⟨c, hc, hon⟩ := hcharacter '#' '.' hinks
  have hsame : lit = true := Option.some.inj (hanswer.symm.trans hlit)
  obtain ⟨hread, htold⟩ := htext '#' '.' hinks
  refine ⟨hlit, (hon.mpr hsame) ▸ hc, hread, ?_, hcard.symm.trans hcount⟩
  intro hwritten
  have hpixels := (htold _ (hbitmaps _ hsize.clear)).mp hwritten.symm
  exact absurd hpixels (by decide +kernel)

end Chip8.Frame
