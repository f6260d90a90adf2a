/-!
Positions counted from either end of a sequence.

An index at or above zero counts from the front, a negative one from the back. A single item has to
exist (`resolve?`), while the two bounds of a block are moved into the sequence (`clamp`).
-/

namespace Chip8.SignedIndex

variable {α : Type}

/-- The place that `index` names among `length` items, if there is one. -/
def resolve? (length : Nat) (index : Int) : Option Nat :=
  if 0 ≤ index then
    if index < length then some index.toNat else none
  else if 0 ≤ index + length then some (index + length).toNat
  else none

/-- The place between 0 and `length` at which a block bounded by `bound` starts or stops. -/
def clamp (length : Nat) (bound : Int) : Nat :=
  if 0 ≤ bound then min bound.toNat length else (bound + length).toNat

def get? (items : Array α) (index : Int) : Option α :=
  (resolve? items.size index).bind (items[·]?)

def set? (items : Array α) (index : Int) (value : α) : Option (Array α) :=
  (resolve? items.size index).map (items.setIfInBounds · value)

/-- The items from `start` up to but not including `stop`. -/
def block (items : Array α) (start stop : Int) : Array α :=
  items.extract (clamp items.size start) (clamp items.size stop)

/-- Puts `values` in the place of the block from `start` to `stop`; the two may differ in length. -/
def replaceBlock (items : Array α) (start stop : Int) (values : Array α) : Array α :=
  let first := clamp items.size start
  let last := max first (clamp items.size stop)
  items.extract 0 first ++ values ++ items.extract last items.size

@[simp]
theorem resolve?_ofNat {length place : Nat} (h : place < length) :
    resolve? length (place : Int) = some place := by
  simp [resolve?, h]

end Chip8.SignedIndex
