import Chip8.Proofs.KeypadActions
import Chip8.Proofs.Memory

/-!
# Sequences of block writes

However memory is written, it stays an array of bytes. A block that does not lie inside is refused
and changes nothing, and one that does changes its own bytes only. So an address holds the byte that
the last accepted write over it has put there, or else the byte that it held at first.
-/

namespace Chip8

/-- Bytes that are to be written to memory from an address on. -/
structure BlockWrite where
  address : Int
  data : List UInt8
  deriving DecidableEq

namespace BlockWrite

/-- The block lies inside memory. -/
def Fits (write : BlockWrite) : Prop :=
  0 ≤ write.address ∧ write.address + write.data.length ≤ memorySize

instance (write : BlockWrite) : Decidable write.Fits := by
  unfold Fits
  infer_instance

/-- The byte that a write puts at an address, if its block covers the address and lies inside
memory. -/
def byteFor? (address : Nat) (write : BlockWrite) : Option UInt8 :=
  if write.Fits ∧ write.address ≤ address then
    write.data[address - write.address.toNat]?
  else none

/-- What a write to a block outside memory fails with. -/
def refusal (write : BlockWrite) (pc : Int) : Failure :=
  .fault (.accessOutOfBounds (write.address + write.data.length - 1) (some pc))

theorem byteFor?_of_fits {write : BlockWrite} (hfits : write.Fits) (address : Nat) :
    write.byteFor? address =
      if write.address.toNat ≤ address ∧ address < write.address.toNat + write.data.length then
        some (write.data.getD (address - write.address.toNat) 0)
      else none := by
  have hstart := hfits.1
  rw [byteFor?]
  by_cases hcovers : write.address ≤ address
  · rw [if_pos ⟨hfits, hcovers⟩]
    by_cases hend : address < write.address.toNat + write.data.length
    · have hoffset : address - write.address.toNat < write.data.length := by omega
      rw [if_pos (by omega)]
      simp [hoffset]
    · have hoffset : write.data.length ≤ address - write.address.toNat := by omega
      rw [if_neg (by omega), List.getElem?_eq_none hoffset]
  · rw [if_neg fun h => hcovers h.2, if_neg (by omega)]

end BlockWrite

namespace State

/-- The answer to a write and the state that is left, whether or not the write failed. -/
def attempt (state : State) (write : BlockWrite) : Except Failure Unit × State :=
  match state.writeBlock write.address write.data with
  | .ok answer left => (.ok answer, left)
  | .error failure left => (.error failure, left)

def afterWrites (state : State) (writes : List BlockWrite) : State :=
  writes.foldl (fun state write => (state.attempt write).2) state

theorem afterWrites_concat (state : State) (writes : List BlockWrite) (write : BlockWrite) :
    state.afterWrites (writes ++ [write]) = ((state.afterWrites writes).attempt write).2 := by
  simp [afterWrites]

/-! ### One write -/

section Attempt

variable {state : State} {write : BlockWrite}

theorem attempt_of_fits (hsize : state.memory.size = memorySize) (hfits : write.Fits) :
    state.attempt write = (.ok (), state.putBytes write.address.toNat write.data) := by
  have haddress : (write.address.toNat : Int) = write.address := Int.toNat_of_nonneg hfits.1
  have hinside : ¬memorySize < write.address.toNat + write.data.length := by
    have hend := hfits.2
    omega
  have hwrite := writeBlock_eq hsize write.address.toNat write.data
  rw [if_neg hinside, haddress] at hwrite
  rw [attempt, hwrite]

theorem attempt_of_not_fits (hfits : ¬write.Fits) :
    state.attempt write = (.error (write.refusal state.pc), state) := by
  have houtside : write.address < 0 ∨ (memorySize : Int) < write.address + write.data.length := by
    unfold BlockWrite.Fits at hfits
    omega
  have hcheck :
      state.checkRange write.address write.data.length = .error (write.refusal state.pc) :=
    if_pos houtside
  rw [attempt, writeBlock, bind_of_error (ask_of_error hcheck)]

theorem exists_attempt_eq (hsize : state.memory.size = memorySize) (write : BlockWrite) :
    ∃ memory : Array UInt8, memory.size = memorySize ∧
      (state.attempt write).2 = { state with memory } := by
  by_cases hfits : write.Fits
  · rw [attempt_of_fits hsize hfits]
    exact ⟨_, (SignedIndex.size_overwrite _ _ _).trans hsize, rfl⟩
  · rw [attempt_of_not_fits hfits]
    exact ⟨state.memory, hsize, rfl⟩

theorem byte_attempt (hsize : state.memory.size = memorySize) (write : BlockWrite)
    (address : Nat) :
    (state.attempt write).2.byte address =
      (write.byteFor? address).getD (state.byte address) := by
  by_cases hfits : write.Fits
  · have hinside : write.address.toNat + write.data.length ≤ state.memory.size := by
      obtain ⟨hstart, hend⟩ := hfits
      omega
    rw [attempt_of_fits hsize hfits, byte_putBytes hinside, BlockWrite.byteFor?_of_fits hfits]
    split <;> rfl
  · rw [attempt_of_not_fits hfits, BlockWrite.byteFor?, if_neg fun h => hfits h.1,
      Option.getD_none]

end Attempt

/-! ### Many writes -/

section Writes

variable {state : State} (hsize : state.memory.size = memorySize) (writes : List BlockWrite)

include hsize

theorem exists_afterWrites_eq :
    ∃ memory : Array UInt8, memory.size = memorySize ∧
      state.afterWrites writes = { state with memory } := by
  induction writes using List.reverseRecOn with
  | nil => exact ⟨state.memory, hsize, rfl⟩
  | append_singleton writes write ih =>
      obtain ⟨before, hbefore, hearlier⟩ := ih
      rw [afterWrites_concat, hearlier]
      exact exists_attempt_eq hbefore write

theorem size_afterWrites : (state.afterWrites writes).memory.size = memorySize := by
  obtain ⟨memory, hmemory, hafter⟩ := exists_afterWrites_eq hsize writes
  rw [hafter]
  exact hmemory

theorem byte_afterWrites (address : Nat) :
    (state.afterWrites writes).byte address =
      (latest? (BlockWrite.byteFor? address) writes).getD (state.byte address) := by
  induction writes using List.reverseRecOn with
  | nil => rfl
  | append_singleton writes write ih =>
      rw [afterWrites_concat, byte_attempt (size_afterWrites hsize writes), ih, latest?_concat,
        Option.getD_or]

/-- After any writes memory has its size, nothing else has changed, and a block inside memory is
read as the bytes that were last written to its addresses, or were there at first. A write fails
exactly if its block does not lie inside memory, and then it leaves the state as it is. -/
theorem last_write_is_read :
    let after := state.afterWrites writes
    (∃ memory : Array UInt8, memory.size = memorySize ∧ after = { state with memory }) ∧
    (∀ write : BlockWrite,
      if write.Fits then (after.attempt write).1 = .ok ()
      else after.attempt write = (.error (write.refusal state.pc), after)) ∧
    ∀ start count : Nat, start + count ≤ memorySize →
      after.readBlock start count = .ok ((List.range count).map fun offset =>
        (latest? (BlockWrite.byteFor? (start + offset)) writes).getD
          (state.byte (start + offset))) := by
  intro after
  have hafter : after.memory.size = memorySize := size_afterWrites hsize writes
  refine ⟨exists_afterWrites_eq hsize writes, ?_, ?_⟩
  · intro write
    split
    case isTrue hfits => rw [attempt_of_fits hafter hfits]
    case isFalse hfits =>
      obtain ⟨memory, -, hmemory⟩ := exists_afterWrites_eq hsize writes
      have hpc : after.pc = state.pc := by simp only [after, hmemory]
      rw [attempt_of_not_fits hfits, hpc]
  · intro start count hinside
    simp only [← byte_afterWrites hsize writes]
    rw [readBlock_eq hafter, if_neg (by omega)]
    rfl

end Writes

/-- Two blocks that overlap in the last byte of memory, and between them a block that goes past the
end and one that starts before memory. -/
def overlappingWrites : List BlockWrite :=
  [⟨0xFFE, [1, 2]⟩, ⟨0xFFF, [3, 4]⟩, ⟨-1, [5, 6]⟩, ⟨0xFFF, [7]⟩]

theorem last_write_is_read_overlapping :
    let after := blank.afterWrites overlappingWrites
    blank.memory.size = memorySize ∧
      after.readBlock (0xFFD : Nat) (3 : Nat) = .ok [0, 1, 7] ∧
      after.attempt ⟨0xFFF, [3, 4]⟩ =
        (.error (.fault (.accessOutOfBounds 0x1000 (some 0x200))), after) := by
  have hsize : blank.memory.size = memorySize := Array.size_replicate
  obtain ⟨-, hwrites, hreads⟩ := last_write_is_read hsize overlappingWrites
  have hread := hreads 0xFFD 3 (by decide)
  exact ⟨hsize, hread.trans (by decide +kernel), hwrites ⟨0xFFF, [3, 4]⟩⟩

end State

end Chip8
