import Chip8.Proofs.Clipping
import Mathlib.Algebra.Ring.Parity

/-!
# Drawings in sequence

A cell is lit after any number of drawings if its first state and the number of drawings that flip
it say so: only whether the number is odd counts. The order of the drawings is therefore of no
account, and two equal drawings cancel each other, whatever is drawn between them.
-/

namespace Chip8

/-- A sprite with the column and the row of its top left corner. -/
structure Stroke where
  x : Nat
  y : Nat
  sprite : List UInt8
  deriving DecidableEq

namespace Display

variable {display : Display}

/-- Draws in turn and stops at the first drawing that fails. -/
def drawAll (display : Display) : List Stroke → Except Failure Display
  | [] => .ok display
  | stroke :: rest =>
    let drawing := display.draw stroke.x stroke.y stroke.sprite
    match drawing.collision with
    | .ok _ => drawing.display.drawAll rest
    | .error failure => .error failure

/-- Whether a stroke flips the cell of a number, on a grid with the sides of `display`. -/
def meets (display : Display) (place : Nat) (stroke : Stroke) : Bool :=
  decide ((place : Int) ∈ display.targets stroke.x stroke.y stroke.sprite)

/-- The display with every cell flipped that an odd number of strokes flip. -/
def flipOdd (display : Display) (strokes : List Stroke) : Display :=
  { display with
    cells := display.cells.mapIdx fun place cell =>
      cell != decide (Odd (strokes.countP (display.meets place))) }

theorem targets_congr {other : Display} (hwidth : other.width = display.width)
    (hheight : other.height = display.height) (x y : Int) (sprite : List UInt8) :
    other.targets x y sprite = display.targets x y sprite := by
  induction sprite generalizing y with
  | nil => rfl
  | cons bits rest ih => rw [targets, targets, ih, rowTargets, rowTargets, hwidth, hheight]

theorem meets_flipOdd (display : Display) (strokes : List Stroke) (place : Nat) :
    (display.flipOdd strokes).meets place = display.meets place := by
  funext stroke
  have hwidth : (display.flipOdd strokes).width = display.width := rfl
  have hheight : (display.flipOdd strokes).height = display.height := rfl
  rw [meets, meets, targets_congr hwidth hheight]

theorem Full.flipOdd (hfull : display.Full) (strokes : List Stroke) :
    (display.flipOdd strokes).Full := by
  unfold Full Display.flipOdd
  rw [Array.size_mapIdx]
  exact hfull

theorem flipOdd_nil (display : Display) : display.flipOdd [] = display := by
  have hcells : display.cells.mapIdx (fun place cell =>
      cell != decide (Odd (([] : List Stroke).countP (display.meets place)))) = display.cells := by
    apply Array.ext_getElem?
    intro place
    simp
  rw [flipOdd, hcells]

theorem flipOdd_congr {strokes others : List Stroke}
    (hparity : ∀ place, Odd (strokes.countP (display.meets place)) ↔
      Odd (others.countP (display.meets place))) :
    display.flipOdd strokes = display.flipOdd others := by
  rw [flipOdd, flipOdd]
  simp only [hparity]

theorem bne_odd_bne_odd (cell : Bool) (first second : Nat) :
    ((cell != decide (Odd first)) != decide (Odd second)) =
      (cell != decide (Odd (first + second))) := by
  have hsum : Odd (first + second) ↔ (Odd first ↔ ¬Odd second) := by
    rw [Nat.odd_add, Nat.not_odd_iff_even]
  by_cases hfirst : Odd first <;> by_cases hsecond : Odd second <;>
    simp [hsum, hfirst, hsecond]

theorem flipOdd_append (display : Display) (strokes others : List Stroke) :
    display.flipOdd (strokes ++ others) = (display.flipOdd strokes).flipOdd others := by
  have hcells : display.cells.mapIdx (fun place cell =>
        cell != decide (Odd ((strokes ++ others).countP (display.meets place)))) =
      (display.flipOdd strokes).cells.mapIdx fun place cell =>
        cell != decide (Odd (others.countP ((display.flipOdd strokes).meets place))) := by
    apply Array.ext_getElem?
    intro place
    rw [Array.getElem?_mapIdx, Array.getElem?_mapIdx, meets_flipOdd, flipOdd,
      Array.getElem?_mapIdx, Option.map_map, List.countP_append]
    congr 1
    funext cell
    exact (bne_odd_bne_odd cell _ _).symm
  rw [flipOdd, hcells]
  rfl

/-! ### One drawing and many -/

theorem Full.targets_inside (hfull : display.Full) {x y : Nat} {sprite : List UInt8} {place : Int}
    (hmem : place ∈ display.targets x y sprite) : 0 ≤ place ∧ place < display.cells.size := by
  by_cases hflat : display.width ≤ 0 ∨ display.height ≤ 0
  · rw [targets_of_flat hflat] at hmem
    cases hmem
  · exact Display.targets_inside (hfull.hasSize (by omega) (by omega)) hmem

theorem Full.nodup_targets (hfull : display.Full) (x y : Nat) (sprite : List UInt8) :
    (display.targets x y sprite).Nodup := by
  by_cases hflat : display.width ≤ 0 ∨ display.height ≤ 0
  · rw [targets_of_flat hflat]
    exact List.nodup_nil
  · exact Display.nodup_targets (hfull.hasSize (by omega) (by omega)) x y sprite

theorem Full.exists_draw_eq (hfull : display.Full) (stroke : Stroke) :
    ∃ collision, display.draw stroke.x stroke.y stroke.sprite =
      { display := display.flipOdd [stroke], collision := .ok collision } := by
  have hdraw := flip_eq (hfull.nodup_targets stroke.x stroke.y stroke.sprite)
    (fun _ hmem => hfull.targets_inside hmem) false
  have hcells : display.cells.mapIdx (fun place cell =>
        cell != decide ((place : Int) ∈ display.targets stroke.x stroke.y stroke.sprite)) =
      (display.flipOdd [stroke]).cells := by
    apply Array.ext_getElem?
    intro place
    rw [Display.flipOdd, Array.getElem?_mapIdx, Array.getElem?_mapIdx, List.countP_singleton,
      meets]
    split <;> simp_all
  rw [hcells] at hdraw
  exact ⟨_, hdraw⟩

/-- Drawings in sequence never fail, and flip the cells that an odd number of them flip. -/
theorem Full.drawAll_eq (hfull : display.Full) (strokes : List Stroke) :
    display.drawAll strokes = .ok (display.flipOdd strokes) := by
  induction strokes generalizing display with
  | nil => rw [flipOdd_nil, drawAll]
  | cons stroke rest ih =>
      obtain ⟨collision, hdraw⟩ := hfull.exists_draw_eq stroke
      rw [drawAll, hdraw]
      dsimp only
      rw [ih (hfull.flipOdd [stroke]), ← flipOdd_append, List.singleton_append]

/-! ### Order and cancelling -/

theorem flipOdd_perm {strokes others : List Stroke} (hperm : strokes.Perm others) :
    display.flipOdd strokes = display.flipOdd others :=
  flipOdd_congr fun place => by rw [hperm.countP_eq]

theorem flipOdd_cancel (display : Display) (stroke : Stroke) (front middle back : List Stroke) :
    display.flipOdd (front ++ stroke :: middle ++ stroke :: back) =
      display.flipOdd (front ++ middle ++ back) := by
  apply flipOdd_congr
  intro place
  simp only [List.countP_append, List.countP_cons, Nat.odd_iff]
  omega

theorem Full.redraw_eq (hfull : display.Full) (stroke : Stroke) :
    ((display.draw stroke.x stroke.y stroke.sprite).display.draw stroke.x stroke.y
      stroke.sprite).display = display := by
  obtain ⟨collision, hdraw⟩ := hfull.exists_draw_eq stroke
  obtain ⟨other, hredraw⟩ := (hfull.flipOdd [stroke]).exists_draw_eq stroke
  have hcancel : display.flipOdd ([stroke] ++ [stroke]) = display.flipOdd [] :=
    flipOdd_cancel display stroke [] [] []
  rw [hdraw, hredraw, ← flipOdd_append, hcancel, flipOdd_nil]

theorem Full.collision_of_redraw (hfull : display.Full) (x y : Nat) (sprite : List UInt8) :
    ∃ collision, ((display.draw x y sprite).display.draw x y sprite).collision = .ok collision ∧
      (collision = true ↔
        ∃ column row : Nat, column < display.width ∧ row < display.height ∧
          covers x y sprite column row = true ∧ display.lit column row = .ok false) := by
  by_cases hflat : display.width ≤ 0 ∨ display.height ≤ 0
  · refine ⟨false, ?_, ?_⟩
    · simp only [draw, targets_of_flat hflat, flip]
    · simp only [Bool.false_eq_true, false_iff, not_exists]
      rintro column row ⟨hcolumn, hrow, -⟩
      omega
  · have hsize := hfull.hasSize (by omega) (by omega)
    refine ⟨(display.blit x y sprite).collides x y sprite, ?_, ?_⟩
    · rw [draw_eq_blit hsize, draw_eq_blit (hsize.blit x y sprite)]
    · rw [(hsize.blit x y sprite).collides_iff]
      refine exists_congr fun column => exists_congr fun row => ?_
      by_cases hinside : column < display.width.toNat ∧ row < display.height.toNat
      · obtain ⟨hcolumn, hrow⟩ := hinside
        have hright : (column : Int) < display.width := by omega
        have habove : (row : Int) < display.height := by omega
        rw [hsize.lit_blit hcolumn hrow, hsize.lit_eq hcolumn hrow]
        simp only [hcolumn, hrow, hright, habove, true_and, Except.ok.injEq]
        cases covers x y sprite column row <;> simp
      · constructor
        · rintro ⟨hcolumn, hrow, -⟩
          omega
        · rintro ⟨hcolumn, hrow, -⟩
          omega

/-- The order of drawings is of no account, two equal ones cancel each other, and a drawing that is
made again at once takes back the first and collides where that has lit a cell. -/
theorem Full.drawings_commute_and_cancel (hfull : display.Full) :
    (∀ strokes, ∃ after, display.drawAll strokes = .ok after ∧ after.width = display.width ∧
      after.height = display.height ∧ after.Full ∧
      ∀ permuted : List Stroke, permuted.Perm strokes → display.drawAll permuted = .ok after) ∧
    (∀ stroke front middle back,
      display.drawAll (front ++ stroke :: middle ++ stroke :: back) =
        display.drawAll (front ++ middle ++ back)) ∧
    ∀ (x y : Nat) (sprite : List UInt8),
      let second := (display.draw x y sprite).display.draw x y sprite
      second.display = display ∧
      ∃ collision, second.collision = .ok collision ∧
        (collision = true ↔
          ∃ column row : Nat, column < display.width ∧ row < display.height ∧
            covers x y sprite column row = true ∧ display.lit column row = .ok false) := by
  refine ⟨fun strokes => ?_, fun stroke front middle back => ?_, fun x y sprite => ⟨?_, ?_⟩⟩
  · refine ⟨_, hfull.drawAll_eq strokes, rfl, rfl, hfull.flipOdd strokes, ?_⟩
    intro permuted hperm
    rw [hfull.drawAll_eq, flipOdd_perm hperm]
  · rw [hfull.drawAll_eq, hfull.drawAll_eq, flipOdd_cancel]
  · exact hfull.redraw_eq ⟨x, y, sprite⟩
  · exact hfull.collision_of_redraw x y sprite

/-- The sprite in the lower right corner meets the lit cell, and another one that was not lit. -/
theorem drawings_commute_and_cancel_litCorner :
    let corner : Stroke := ⟨8, 2, [0xFF, 0xFF]⟩
    let dot : Stroke := ⟨9, 2, [0x80]⟩
    litCorner.drawAll [corner, dot] = litCorner.drawAll [dot, corner] ∧
      litCorner.drawAll [corner, dot, corner] = litCorner.drawAll [dot] ∧
      (litCorner.draw (8 : Nat) (2 : Nat) [0xFF, 0xFF]).display.draw (8 : Nat) (2 : Nat)
          [0xFF, 0xFF] = { display := litCorner, collision := .ok true } := by
  intro corner dot
  obtain ⟨horder, hcancel, hredraw⟩ := full_litCorner.drawings_commute_and_cancel
  obtain ⟨after, hdrawn, -, -, -, hpermuted⟩ := horder [dot, corner]
  obtain ⟨hdisplay, collision, hcollision, hiff⟩ := hredraw 8 2 [0xFF, 0xFF]
  have hcollides : collision = true :=
    hiff.mpr ⟨8, 2, by decide, by decide, by decide, by decide⟩
  rw [hcollides] at hcollision
  refine ⟨?_, hcancel corner [] [dot] [], ?_⟩
  · rw [hpermuted [corner, dot] (List.Perm.swap dot corner []), hdrawn]
  · exact congrArg₂ Drawing.mk hdisplay hcollision

end Display

end Chip8
