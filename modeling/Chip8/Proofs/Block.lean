import Chip8.SignedIndex

/-!
# Places and blocks inside a sequence

A position is signed and may miss the sequence. Where it is known to lie inside, reading, writing
and replacing have plain pointwise descriptions; `overwrite` is the one for a block.
-/

namespace Chip8.SignedIndex

variable {α : Type}

theorem get?_ofNat {items : Array α} {place : Nat} (h : place < items.size) (fallback : α) :
    get? items (place : Int) = some (items.getD place fallback) := by
  simp [get?, h]

theorem set?_ofNat {items : Array α} {place : Nat} (h : place < items.size) (value : α) :
    set? items (place : Int) value = some (items.setIfInBounds place value) := by
  simp [set?, h]

theorem clamp_ofNat {length bound : Nat} (h : bound ≤ length) :
    clamp length (bound : Int) = bound := by
  simp [clamp, h]

/-- The items with `values` written over them from `start` on. -/
def overwrite (items : Array α) (start : Nat) (values : List α) : Array α :=
  items.mapIdx fun place item =>
    if start ≤ place then (values[place - start]?).getD item else item

@[simp]
theorem size_overwrite (items : Array α) (start : Nat) (values : List α) :
    (overwrite items start values).size = items.size := by
  simp [overwrite]

theorem getElem?_overwrite (items : Array α) (start : Nat) (values : List α) (place : Nat) :
    (overwrite items start values)[place]? =
      if start ≤ place then items[place]?.map fun item => (values[place - start]?).getD item
      else items[place]? := by
  rw [overwrite, Array.getElem?_mapIdx]
  split <;> simp

theorem getD_overwrite {items : Array α} {start : Nat} {values : List α}
    (h : start + values.length ≤ items.size) (place : Nat) (fallback : α) :
    (overwrite items start values).getD place fallback =
      if start ≤ place ∧ place < start + values.length then values.getD (place - start) fallback
      else items.getD place fallback := by
  rw [Array.getD_eq_getD_getElem?, getElem?_overwrite]
  by_cases hinside : start ≤ place ∧ place < start + values.length
  · have hvalue : place - start < values.length := by omega
    have hitem : place < items.size := by omega
    rw [if_pos hinside.1, if_pos hinside]
    simp [hvalue, hitem]
  · rw [if_neg hinside]
    by_cases hstart : start ≤ place
    · have hvalue : values.length ≤ place - start := by omega
      rw [if_pos hstart, List.getElem?_eq_none hvalue]
      simp
    · rw [if_neg hstart]
      simp

theorem mem_overwrite {items : Array α} {start : Nat} {values : List α} {item : α}
    (h : item ∈ overwrite items start values) : item ∈ items ∨ item ∈ values := by
  obtain ⟨place, hplace⟩ := Array.mem_iff_getElem?.mp h
  rw [getElem?_overwrite] at hplace
  split at hplace
  · obtain ⟨old, hold, hitem⟩ := Option.map_eq_some_iff.mp hplace
    cases hvalue : values[place - start]? with
    | none =>
        rw [hvalue] at hitem
        exact Or.inl (hitem ▸ Array.mem_of_getElem? hold)
    | some value =>
        rw [hvalue] at hitem
        exact Or.inr (hitem ▸ List.mem_of_getElem? hvalue)
  · exact Or.inl (Array.mem_of_getElem? hplace)

theorem replaceBlock_eq_overwrite {items values : Array α} {start : Nat}
    (h : start + values.size ≤ items.size) :
    replaceBlock items start (start + values.size) values =
      overwrite items start values.toList := by
  have hfirst : clamp items.size (start : Int) = start := clamp_ofNat (by omega)
  have hlast : clamp items.size ((start : Int) + values.size) = start + values.size := by
    exact_mod_cast clamp_ofNat h
  have hmax : max start (start + values.size) = start + values.size := by omega
  unfold replaceBlock
  simp only [hfirst, hlast, hmax]
  apply Array.ext_getElem?
  intro place
  have hfront : (items.extract 0 start).size = start := by
    rw [Array.size_extract]
    omega
  rw [getElem?_overwrite, Array.getElem?_append, Array.getElem?_append, Array.size_append, hfront]
  -- The front, the values and the rest of the items are the three parts of the sequence.
  by_cases hbefore : place < start
  · rw [if_pos (by omega), if_pos hbefore, if_neg (by omega), Array.getElem?_extract]
    simp
    omega
  · by_cases hinside : place < start + values.size
    · have hvalue : place - start < values.size := by omega
      have hitem : place < items.size := by omega
      rw [if_pos hinside, if_neg hbefore, if_pos (by omega)]
      simp [hvalue, hitem]
    · have hvalue : ¬place - start < values.size := by omega
      have hplace : start + values.size + (place - (start + values.size)) = place := by omega
      rw [if_neg hinside, if_pos (by omega), Array.getElem?_extract, hplace]
      simp [hvalue]
      omega

theorem toList_block {items : Array α} {start count : Nat} (h : start + count ≤ items.size)
    (fallback : α) :
    (block items start (start + count)).toList =
      (List.range count).map fun offset => items.getD (start + offset) fallback := by
  have hfirst : clamp items.size (start : Int) = start := clamp_ofNat (by omega)
  have hlast : clamp items.size ((start : Int) + count) = start + count := by
    exact_mod_cast clamp_ofNat h
  rw [block, hfirst, hlast]
  apply List.ext_getElem
  · simp
    omega
  · intro offset hleft hright
    have hoffset : offset < count := by simpa using hright
    have hplace : start + offset < items.size := by omega
    simp [hplace]

end Chip8.SignedIndex
