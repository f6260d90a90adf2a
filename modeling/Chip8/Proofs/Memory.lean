import Chip8.Proofs.Registers
import Mathlib.Logic.Basic

/-!
# Memory as bytes

A valid state has `memorySize` bytes of memory. A block that lies inside is read and written byte by
byte, any other is refused with the address of its last byte, and the instructions that move a block
are described by the block at the index.
-/

namespace Chip8.State

/-- The byte at an address; zero outside memory. -/
def byte (state : State) (address : Nat) : UInt8 :=
  state.memory.getD address 0

def bytes (state : State) (start count : Nat) : List UInt8 :=
  (List.range count).map fun offset => state.byte (start + offset)

def putBytes (state : State) (start : Nat) (data : List UInt8) : State :=
  { state with memory := SignedIndex.overwrite state.memory start data }

/-- The word at the program counter, high byte first. -/
def word (state : State) : Nat :=
  0x100 * (state.byte state.pc.toNat).toNat + (state.byte (state.pc.toNat + 1)).toNat

def vs (state : State) (count : Nat) : List UInt8 :=
  (List.range count).map state.v

def setVs (state : State) (values : List UInt8) : State :=
  { state with
    registers :=
      SignedIndex.overwrite state.registers 0 (values.map fun value => (value.toNat : Int)) }

@[simp]
theorem length_bytes (state : State) (start count : Nat) :
    (state.bytes start count).length = count := by
  simp [bytes]

@[simp]
theorem length_vs (state : State) (count : Nat) : (state.vs count).length = count := by
  simp [vs]

theorem word_lt (state : State) : state.word < 0x10000 := by
  have hhigh := (state.byte state.pc.toNat).toNat_lt
  have hlow := (state.byte (state.pc.toNat + 1)).toNat_lt
  rw [word]
  omega

theorem Valid.pc_eq {state : State} (hvalid : state.Valid) :
    state.pc = (state.pc.toNat : Int) := by
  have hpc := hvalid.pc_range
  omega

theorem Valid.putBytes {state : State} (hvalid : state.Valid) (start : Nat) (data : List UInt8) :
    (state.putBytes start data).Valid := by
  obtain ⟨hmemory, hrest⟩ := hvalid
  exact ⟨(SignedIndex.size_overwrite state.memory start data).trans hmemory, hrest⟩

theorem HoldsBytes.putBytes {state : State} (hbytes : state.HoldsBytes) (start : Nat)
    (data : List UInt8) : (state.putBytes start data).HoldsBytes :=
  { hbytes with
    memory_size := (SignedIndex.size_overwrite state.memory start data).trans hbytes.memory_size }

theorem HoldsBytes.setVs {state : State} (hbytes : state.HoldsBytes) (values : List UInt8) :
    (state.setVs values).HoldsBytes := by
  have hsize := SignedIndex.size_overwrite state.registers 0
    (values.map fun value => (value.toNat : Int))
  refine ⟨hbytes.memory_size, hsize.trans hbytes.registers_size, ?_, hbytes.index_nonneg⟩
  intro stored hstored
  cases SignedIndex.mem_overwrite hstored with
  | inl hold => exact hbytes.registers_range hold
  | inr hnew =>
      obtain ⟨value, -, rfl⟩ := List.mem_map.mp hnew
      have hvalue := value.toNat_lt
      omega

theorem Valid.setVs {state : State} (hvalid : state.Valid) (values : List UInt8) :
    (state.setVs values).Valid := by
  have hbytes := hvalid.holdsBytes.setVs values
  obtain ⟨hmemory, -, -, hrest⟩ := hvalid
  exact ⟨hmemory, hbytes.registers_size,
    fun stored hstored => hbytes.registers_range (Array.mem_toList_iff.mp hstored), hrest⟩

theorem byte_putBytes {state : State} {start : Nat} {data : List UInt8}
    (hinside : start + data.length ≤ state.memory.size) (address : Nat) :
    (state.putBytes start data).byte address =
      if start ≤ address ∧ address < start + data.length then data.getD (address - start) 0
      else state.byte address :=
  SignedIndex.getD_overwrite hinside address 0

theorem v_setVs {state : State} {values : List UInt8}
    (hinside : values.length ≤ state.registers.size) (number : Nat) :
    (state.setVs values).v number =
      if number < values.length then values.getD number 0 else state.v number := by
  have hroom : 0 + (values.map fun value => (value.toNat : Int)).length ≤ state.registers.size := by
    simpa using hinside
  rw [v, setVs, SignedIndex.getD_overwrite hroom number 0]
  by_cases hstored : number < values.length
  · rw [if_pos (by simpa using hstored), if_pos hstored]
    simp [hstored]
  · rw [if_neg (by simpa using hstored), if_neg hstored, v]

/-- What an access to a block that is not inside memory fails with: the address of its last byte and
the program counter. -/
def outside (state : State) (start count : Nat) : Fault :=
  .accessOutOfBounds (start + count - 1) (some state.pc)

section Blocks

variable {state : State} {start count : Nat} {data : List UInt8}

theorem fetch_eq (hvalid : state.Valid) (hpc : state.pc ≤ 4094) :
    state.fetch = .ok (state.word : Int) := by
  have hsize := hvalid.memory_size
  have hnat := hvalid.pc_eq
  have hhigh : state.pc.toNat < state.memory.size := by
    rw [hsize, memorySize]
    omega
  have hlow : state.pc.toNat + 1 < state.memory.size := by
    rw [hsize, memorySize]
    omega
  have hget := SignedIndex.get?_ofNat hhigh 0
  have hnext := SignedIndex.get?_ofNat hlow 0
  rw [Int.natCast_add, Int.natCast_one, ← hnat] at hnext
  rw [← hnat] at hget
  rw [fetch, if_neg (by rw [memorySize]; omega), hget, hnext, word, byte, byte]
  exact congrArg Except.ok (by omega)

theorem fetch_fault (hpc : 4094 < state.pc) :
    state.fetch = .error (.fault (.fetchOutOfBounds state.pc)) := by
  rw [fetch, if_pos (by rw [memorySize]; omega)]

theorem checkRange_eq (start count : Nat) :
    state.checkRange start count =
      if memorySize < start + count then
        .error (.fault (state.outside start count))
      else .ok () := by
  have hiff : ((start : Int) < 0 ∨ (memorySize : Int) < start + count) ↔
      memorySize < start + count := by
    omega
  rw [checkRange]
  exact if_congr hiff rfl rfl

theorem readBlock_eq (hsize : state.memory.size = memorySize) (start count : Nat) :
    state.readBlock start count =
      if memorySize < start + count then
        .error (.fault (state.outside start count))
      else .ok (state.bytes start count) := by
  rw [readBlock, checkRange_eq]
  split
  · rfl
  · have hinside : start + count ≤ state.memory.size := by
      rw [hsize]
      omega
    rw [SignedIndex.toList_block hinside 0]
    rfl

theorem writeBlock_eq (hsize : state.memory.size = memorySize) (start : Nat) (data : List UInt8) :
    state.writeBlock start data =
      if memorySize < start + data.length then
        .error (.fault (state.outside start data.length)) state
      else .ok () (state.putBytes start data) := by
  have hcheck : state.checkRange start data.length = _ := checkRange_eq start data.length
  rw [writeBlock]
  split
  case isTrue houtside =>
    rw [if_pos houtside] at hcheck
    exact bind_of_error (ask_of_error hcheck)
  case isFalse hend =>
    rw [if_neg hend] at hcheck
    have hinside : start + data.toArray.size ≤ state.memory.size := by
      rw [hsize, List.size_toArray]
      omega
    have hreplace := SignedIndex.replaceBlock_eq_overwrite hinside
    rw [List.size_toArray] at hreplace
    rw [ask_bind hcheck, putBytes, ← hreplace]
    rfl

end Blocks

section Effects

variable {state : State}

theorem bytes?_map_toNat (data : List UInt8) :
    bytes? (data.map fun byte => (byte.toNat : Int)) = some data := by
  have hrange : ∀ value ∈ data.map fun byte => (byte.toNat : Int), 0 ≤ value ∧ value < 0x100 := by
    intro value hvalue
    obtain ⟨byte, -, rfl⟩ := List.mem_map.mp hvalue
    have hbyte := byte.toNat_lt
    omega
  rw [bytes?, if_pos hrange, List.map_map]
  simp [Function.comp_def]

theorem writeNumbers_eq (hbytes : state.HoldsBytes) (data : List UInt8) :
    state.writeNumbers (data.map fun byte => (byte.toNat : Int)) =
      if memorySize < state.i + data.length then
        .error (.fault (state.outside state.i data.length)) state
      else .ok () (state.putBytes state.i data) := by
  have hwrite : state.writeNumbers (data.map fun byte => (byte.toNat : Int)) =
      state.writeBlock state.index data := by
    rw [writeNumbers, bytes?_map_toNat]
    rfl
  rw [hwrite, hbytes.index_eq]
  exact writeBlock_eq hbytes.memory_size state.i data

/-- The three decimal digits of a byte, the hundreds first. -/
def digits (value : UInt8) : List UInt8 :=
  [value / 100, value / 10 % 10, value % 10]

theorem decimal_eq (hbytes : state.HoldsBytes) {x : Nat} (hx : x < 16) :
    state.decimal x =
      if memorySize < state.i + 3 then
        .error (.fault (state.outside state.i 3)) state
      else .ok () (state.putBytes state.i (digits (state.v x))) := by
  have hdigits : [((state.v x).toNat : Int) / 100, ((state.v x).toNat : Int) / 10 % 10,
      ((state.v x).toNat : Int) % 10] =
        (digits (state.v x)).map fun byte => (byte.toNat : Int) := by
    simp [digits]
  rw [decimal, ask_bind (register_eq hbytes hx), hdigits]
  exact writeNumbers_eq hbytes (digits (state.v x))

theorem toList_block_registers (hbytes : state.HoldsBytes) {count : Nat} (hcount : count ≤ 16) :
    (SignedIndex.block state.registers 0 count).toList =
      (state.vs count).map fun value => (value.toNat : Int) := by
  have hinside : 0 + count ≤ state.registers.size := by
    rw [hbytes.registers_size, registerCount]
    omega
  have hblock := SignedIndex.toList_block hinside 0
  rw [Int.natCast_zero, Int.zero_add] at hblock
  rw [hblock, vs, List.map_map]
  apply List.map_congr_left
  intro place hplace
  rw [Nat.zero_add]
  exact getD_registers hbytes (by have := List.mem_range.mp hplace; omega)

theorem store_eq (hbytes : state.HoldsBytes) {x : Nat} (hx : x < 16) :
    state.store x =
      if memorySize < state.i + (x + 1) then
        .error (.fault (state.outside state.i (x + 1))) state
      else .ok () (state.putBytes state.i (state.vs (x + 1))) := by
  have hblock := toList_block_registers hbytes (show x + 1 ≤ 16 by omega)
  have hwrite := writeNumbers_eq hbytes (state.vs (x + 1))
  rw [length_vs] at hwrite
  rw [store, ← hwrite, ← hblock]
  rfl

theorem replaceRegisters_eq (hbytes : state.HoldsBytes) {data : List UInt8}
    (hroom : data.length ≤ 16) : state.replaceRegisters data.length data = state.setVs data := by
  have hinside : 0 + (data.map fun byte => (byte.toNat : Int)).toArray.size ≤
      state.registers.size := by
    rw [hbytes.registers_size, registerCount]
    simpa using hroom
  have hreplace := SignedIndex.replaceBlock_eq_overwrite hinside
  simp only [List.size_toArray, List.length_map, Int.natCast_zero, Int.zero_add] at hreplace
  rw [setVs, ← hreplace]
  rfl

theorem load_eq (hbytes : state.HoldsBytes) {x : Nat} (hx : x < 16) :
    state.load x =
      if memorySize < state.i + (x + 1) then
        .error (.fault (state.outside state.i (x + 1))) state
      else .ok () (state.setVs (state.bytes state.i (x + 1))) := by
  have hread : state.readBlock state.index ((x + 1 : Nat) : Int) = _ :=
    hbytes.index_eq ▸ readBlock_eq hbytes.memory_size state.i (x + 1)
  rw [load]
  split
  case isTrue houtside =>
    rw [if_pos houtside] at hread
    exact bind_of_error (ask_of_error hread)
  case isFalse hinside =>
    rw [if_neg hinside] at hread
    have hroom : (state.bytes state.i (x + 1)).length ≤ 16 := by
      rw [length_bytes]
      omega
    have hreplace := replaceRegisters_eq hbytes hroom
    rw [length_bytes] at hreplace
    rw [← hreplace]
    exact ask_bind hread

end Effects

end Chip8.State
