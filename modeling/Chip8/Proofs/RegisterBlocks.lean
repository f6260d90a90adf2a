import Chip8.Proofs.Transfers
import Mathlib.Data.List.GetD

/-!
# Registers kept in memory

A program saves its registers in memory and loads them again later. Whatever it does with the
registers in between, the block comes back byte by byte, and neither way is anything moved but the
block. The three decimal digits of a register come back as numbers that make it up again, also when
they are loaded over the register that they were made of.
-/

namespace Chip8

namespace State

variable {state : State} {start count : Nat} {data values : List UInt8}

theorem getElem?_memory_putBytes (state : State) (start : Nat) (data : List UInt8)
    {address : Nat} (houtside : address < start ∨ start + data.length ≤ address) :
    (state.putBytes start data).memory[address]? = state.memory[address]? := by
  rw [putBytes, SignedIndex.getElem?_overwrite]
  split
  · have hlength : data.length ≤ address - start := by omega
    rw [List.getElem?_eq_none hlength]
    simp
  · rfl

theorem bytes_putBytes (hinside : start + data.length ≤ state.memory.size) :
    (state.putBytes start data).bytes start data.length = data := by
  apply List.ext_getElem (length_bytes _ _ _)
  intro offset hleft hoffset
  have hplace : start ≤ start + offset ∧ start + offset < start + data.length := by omega
  simp only [bytes, List.getElem_map, List.getElem_range]
  rw [byte_putBytes hinside, if_pos hplace, Nat.add_sub_cancel_left,
    List.getD_eq_getElem _ _ hoffset]

/-- A block that is written where it was read leaves memory as it is. -/
theorem overwrite_bytes (hinside : start + count ≤ state.memory.size) :
    SignedIndex.overwrite state.memory start (state.bytes start count) = state.memory := by
  apply Array.ext_getElem?
  intro address
  rw [SignedIndex.getElem?_overwrite]
  split
  case isFalse => rfl
  case isTrue hstart =>
    by_cases hblock : address - start < count
    · have hplace : address < state.memory.size := by omega
      have hoffset : start + (address - start) = address := by omega
      simp [bytes, byte, hblock, hplace, hoffset]
    · have hlength : (state.bytes start count).length ≤ address - start := by
        rw [length_bytes]
        omega
      rw [List.getElem?_eq_none hlength]
      simp

theorem vs_setVs (hinside : values.length ≤ state.registers.size) :
    (state.setVs values).vs values.length = values := by
  apply List.ext_getElem (length_vs _ _)
  intro number hleft hnumber
  simp only [vs, List.getElem_map, List.getElem_range]
  rw [v_setVs hinside, if_pos hnumber, List.getD_eq_getElem _ _ hnumber]

/-- Registers up to a number are those of another state, and the others stay. -/
theorem HoldsBytes.register_setVs (hbytes : state.HoldsBytes) {other : State}
    (hother : other.HoldsBytes) (hcount : count ≤ 16) {number : Nat} (hnumber : number < 16) :
    (state.setVs (other.vs count)).register number =
      if number < count then other.register number else state.register number := by
  have hinside : (other.vs count).length ≤ state.registers.size := by
    rw [length_vs, hbytes.registers_size]
    exact hcount
  rw [register_eq (hbytes.setVs _) hnumber, register_eq hother hnumber, register_eq hbytes hnumber,
    v_setVs hinside, length_vs]
  split
  case isTrue hstored => simp [vs, hstored]
  case isFalse => rfl

/-- The index is kept, and memory is kept outside the block of so many bytes at the index. -/
structure SameOutside (state after : State) (count : Nat) : Prop where
  index_eq : after.index = state.index
  size_eq : after.memory.size = state.memory.size
  getElem?_memory {address : Nat} (houtside : address < state.i ∨ state.i + count ≤ address) :
    after.memory[address]? = state.memory[address]?

theorem sameOutside_putBytes (state : State) (data : List UInt8) :
    state.SameOutside (state.putBytes state.i data) data.length where
  index_eq := rfl
  size_eq := SignedIndex.size_overwrite state.memory state.i data
  getElem?_memory houtside := getElem?_memory_putBytes state state.i data houtside

/-- Memory and the index are kept. -/
def SameMemory (state after : State) : Prop :=
  after.memory = state.memory ∧ after.index = state.index

/-- Three registers are the decimal digits of a number, the hundreds first. -/
def ShowsDigits (state : State) (value : Int) : Prop :=
  ∃ hundreds tens ones : Int,
    state.register 0 = .ok hundreds ∧ state.register 1 = .ok tens ∧ state.register 2 = .ok ones ∧
      (∀ digit ∈ [hundreds, tens, ones], 0 ≤ digit ∧ digit ≤ 9) ∧
      100 * hundreds + 10 * tens + ones = value

theorem HoldsBytes.showsDigits (hbytes : state.HoldsBytes) (value : UInt8) :
    (state.setVs (digits value)).ShowsDigits value.toNat := by
  have hinside : (digits value).length ≤ state.registers.size := by
    rw [hbytes.registers_size]
    exact (by decide : 3 ≤ registerCount)
  have hregister (number : Nat) (hnumber : number < 3) :
      (state.setVs (digits value)).register number =
        .ok (((digits value).getD number 0).toNat : Int) := by
    have hstored : number < (digits value).length := hnumber
    rw [register_eq (hbytes.setVs _) (by omega), v_setVs hinside, if_pos hstored]
  have hvalue := value.toNat_lt
  refine ⟨_, _, _, hregister 0 (by decide), hregister 1 (by decide), hregister 2 (by decide),
    ?_, ?_⟩
  · simp [digits]
    omega
  · simp [digits]
    omega

end State

/-- The instruction of some digits has their operation and their first register. -/
theorem Instruction.decode_digits {operation : Operation} {a x y n : Nat}
    (hdigits : operation.HasDigits a x y n) (hvalid : operation ≠ .invalid) (ha : a < 16)
    (hx : x < 16) (hy : y < 16) (hn : n < 16) :
    (decode (0x1000 * a + Effect.address x y n : Nat)).operation = operation ∧
      (decode (0x1000 * a + Effect.address x y n : Nat)).x = x := by
  let word := 0x1000 * a + Effect.address x y n
  obtain ⟨hfirst, hsecond, hthird, hfourth⟩ := Effect.digits_eq a hx hy hn
  have hdecode : decode word = ofWord word := by
    rw [decode]
    congr 1
    omega
  have hfits : operation.Fits word := by
    rw [Operation.Fits, hfirst, hsecond, hthird, hfourth]
    exact hdigits
  change (decode word).operation = operation ∧ (decode word).x = x
  rw [hdecode, ofWord_x, hsecond]
  exact ⟨Operation.ofWord_eq_of_fits hvalid hfits, rfl⟩

/-- The instruction that the word of a transfer is decoded to. -/
def Transfer.instruction (transfer : Transfer) : Instruction :=
  .decode transfer.word

namespace Machine

variable {source : Type} [ByteSource source] {machine : Machine source}

/-- The machine when an instruction has changed its state. -/
def executedTo (machine : Machine source) (after : State) : Machine source :=
  countCycle { machine with state := after }

theorem execute_of_digits (operation : Operation) {x y n : Nat}
    {change : Int → State.Action Unit} {after : State}
    (hperform : ∀ instruction : Instruction, instruction.operation = operation →
      (perform instruction : Action source Unit) = update (change instruction.x))
    (hdigits : operation.HasDigits 0xF x y n) (hvalid : operation ≠ .invalid) (hx : x < 16)
    (hy : y < 16) (hn : n < 16) (hchange : change x machine.state = .ok () after) :
    execute (.decode (0xF000 + Effect.address x y n : Nat)) machine =
      .ok () (machine.executedTo after) := by
  obtain ⟨hoperation, hfirst⟩ :=
    Instruction.decode_digits hdigits hvalid (by decide : 0xF < 16) hx hy hn
  have hrun := hperform _ hoperation
  rw [hfirst] at hrun
  change EStateM.bind (perform (.decode (0x1000 * 0xF + Effect.address x y n : Nat))) _ machine = _
  rw [EStateM.bind, hrun, update_ok hchange]
  rfl

section Execute

variable (hbytes : machine.state.HoldsBytes) (x : Fin 16)

include hbytes

theorem execute_store (hinside : machine.state.i + (x + 1) ≤ memorySize) :
    execute (Transfer.store x).instruction machine =
      .ok () (machine.executedTo
        (machine.state.putBytes machine.state.i (machine.state.vs (x + 1)))) := by
  have hstore := State.store_eq hbytes x.isLt
  rw [if_neg (by omega)] at hstore
  refine execute_of_digits .store ?_ ⟨rfl, rfl, rfl⟩ (by decide) x.isLt
    (by decide) (by decide) hstore
  intro instruction hoperation
  simp only [perform, hoperation]

theorem execute_load (hinside : machine.state.i + (x + 1) ≤ memorySize) :
    execute (Transfer.load x).instruction machine =
      .ok () (machine.executedTo
        (machine.state.setVs (machine.state.bytes machine.state.i (x + 1)))) := by
  have hload := State.load_eq hbytes x.isLt
  rw [if_neg (by omega)] at hload
  refine execute_of_digits .load ?_ ⟨rfl, rfl, rfl⟩ (by decide) x.isLt
    (by decide) (by decide) hload
  intro instruction hoperation
  simp only [perform, hoperation]

theorem execute_decimal (hinside : machine.state.i + 3 ≤ memorySize) :
    execute (Transfer.decimal x).instruction machine =
      .ok () (machine.executedTo
        (machine.state.putBytes machine.state.i (State.digits (machine.state.v x)))) := by
  have hdecimal := State.decimal_eq hbytes x.isLt
  rw [if_neg (by omega)] at hdecimal
  refine execute_of_digits .decimal ?_ ⟨rfl, rfl, rfl⟩ (by decide) x.isLt
    (by decide) (by decide) hdecimal
  intro instruction hoperation
  simp only [perform, hoperation]

end Execute

section ExecutedTo

variable {after : State}

omit [ByteSource source]

theorem holdsBytes_executedTo (hbytes : after.HoldsBytes) :
    (machine.executedTo after).state.HoldsBytes :=
  ⟨hbytes.memory_size, hbytes.registers_size, hbytes.registers_range, hbytes.index_nonneg⟩

theorem sameOutside_executedTo {state : State} {count : Nat}
    (houtside : state.SameOutside after count) :
    state.SameOutside (machine.executedTo after).state count :=
  ⟨houtside.index_eq, houtside.size_eq, houtside.getElem?_memory⟩

end ExecutedTo

section Survive

variable (hbytes : machine.state.HoldsBytes) (x : Fin 16)

include hbytes

/-- Whatever becomes of the registers, those that were stored come back and the others stay. -/
theorem exists_store_load (hinside : machine.state.i + (x + 1) ≤ memorySize) :
    ∃ stored, execute (Transfer.store x).instruction machine = .ok () stored ∧
      machine.state.SameOutside stored.state (x + 1) ∧
      ∀ registers : Array Int,
        let changed := { stored with state := { stored.state with registers } }
        changed.state.HoldsBytes →
        ∃ loaded, execute (Transfer.load x).instruction changed = .ok () loaded ∧
          stored.state.SameMemory loaded.state ∧
          ∀ number : Fin 16, loaded.state.register number =
            if number ≤ x then machine.state.register number
            else changed.state.register number := by
  have hroom : machine.state.i + (machine.state.vs (x + 1)).length ≤ machine.state.memory.size := by
    rw [State.length_vs, hbytes.memory_size]
    exact hinside
  have houtside := State.sameOutside_putBytes machine.state (machine.state.vs (x + 1))
  have hread := State.bytes_putBytes hroom
  rw [State.length_vs] at houtside hread
  refine ⟨_, execute_store hbytes x hinside, sameOutside_executedTo houtside, ?_⟩
  intro registers changed hchanged
  refine ⟨_, execute_load hchanged x hinside, ⟨rfl, rfl⟩, fun number => ?_⟩
  have hcount : x.val + 1 ≤ 16 := x.isLt
  have hregister := hchanged.register_setVs hbytes hcount number.isLt
  have hle : number.val < x + 1 ↔ number ≤ x := Nat.lt_succ_iff
  rw [if_congr hle rfl rfl, ← hread] at hregister
  exact hregister

theorem exists_load_store (hinside : machine.state.i + (x + 1) ≤ memorySize) :
    ∃ loaded stored, execute (Transfer.load x).instruction machine = .ok () loaded ∧
      execute (Transfer.store x).instruction loaded = .ok () stored ∧
      machine.state.SameMemory loaded.state ∧ machine.state.SameMemory stored.state := by
  let block := machine.state.bytes machine.state.i (x + 1)
  have hlength : block.length = x + 1 := State.length_bytes _ _ _
  have hroom : block.length ≤ machine.state.registers.size := by
    rw [hlength, hbytes.registers_size]
    exact x.isLt
  have hstored := State.vs_setVs hroom
  rw [hlength] at hstored
  refine ⟨_, _, execute_load hbytes x hinside,
    execute_store (holdsBytes_executedTo (hbytes.setVs block)) x hinside, ⟨rfl, rfl⟩, ?_, rfl⟩
  calc SignedIndex.overwrite machine.state.memory machine.state.i
        ((machine.state.setVs block).vs (x + 1))
      = SignedIndex.overwrite machine.state.memory machine.state.i block := by rw [hstored]
    _ = machine.state.memory := State.overwrite_bytes (hbytes.memory_size ▸ hinside)

theorem exists_decimal_load (hinside : machine.state.i + 3 ≤ memorySize) :
    ∃ written loaded, execute (Transfer.decimal x).instruction machine = .ok () written ∧
      execute (Transfer.load 2).instruction written = .ok () loaded ∧
      ∃ value, machine.state.register x = .ok value ∧ loaded.state.ShowsDigits value := by
  let digits := State.digits (machine.state.v x)
  have hwritten := hbytes.putBytes machine.state.i digits
  have hroom : machine.state.i + digits.length ≤ machine.state.memory.size := by
    rw [hbytes.memory_size]
    exact hinside
  have hread : (machine.state.putBytes machine.state.i digits).bytes machine.state.i 3 = digits :=
    State.bytes_putBytes hroom
  have hdigits : ((machine.state.putBytes machine.state.i digits).setVs
      ((machine.state.putBytes machine.state.i digits).bytes machine.state.i 3)).ShowsDigits
        (machine.state.v x).toNat := by
    rw [hread]
    exact hwritten.showsDigits (machine.state.v x)
  exact ⟨_, _, execute_decimal hbytes x hinside,
    execute_load (holdsBytes_executedTo hwritten) 2 hinside, _,
    State.register_eq hbytes x.isLt, hdigits⟩

end Survive

/-- Registers that are stored, changed and loaded again are the old ones, and registers that are
loaded and stored again leave memory as it is. The digits of a register, loaded again, make up its
number. -/
theorem registers_survive_memory (hbytes : machine.state.HoldsBytes) (x : Fin 16) :
    (machine.state.index + x ≤ 4095 →
      (∃ stored, execute (Transfer.store x).instruction machine = .ok () stored ∧
        machine.state.SameOutside stored.state (x + 1) ∧
        ∀ registers : Array Int,
          let changed := { stored with state := { stored.state with registers } }
          changed.state.HoldsBytes →
          ∃ loaded, execute (Transfer.load x).instruction changed = .ok () loaded ∧
            stored.state.SameMemory loaded.state ∧
            ∀ number : Fin 16, loaded.state.register number =
              if number ≤ x then machine.state.register number
              else changed.state.register number) ∧
      ∃ loaded stored, execute (Transfer.load x).instruction machine = .ok () loaded ∧
        execute (Transfer.store x).instruction loaded = .ok () stored ∧
        machine.state.SameMemory loaded.state ∧ machine.state.SameMemory stored.state) ∧
    (machine.state.index ≤ 4093 →
      ∃ written loaded, execute (Transfer.decimal x).instruction machine = .ok () written ∧
        execute (Transfer.load 2).instruction written = .ok () loaded ∧
        ∃ value, machine.state.register x = .ok value ∧ loaded.state.ShowsDigits value) := by
  have hindex := hbytes.index_eq
  constructor
  · intro hblock
    have hinside : machine.state.i + (x + 1) ≤ memorySize := by
      rw [memorySize]
      omega
    exact ⟨exists_store_load hbytes x hinside, exists_load_store hbytes x hinside⟩
  · intro hblock
    have hinside : machine.state.i + 3 ≤ memorySize := by
      rw [memorySize]
      omega
    exact exists_decimal_load hbytes x hinside

/-- A machine with 254 in `V2` whose index is three bytes before the end of memory. -/
def keepingLast : Machine ByteCycle :=
  (Machine.create {} (ByteCycle.mk #[] 0)).afterCalls
    [.load [0x62, 0xFE, 0xAF, 0xFD], .step, .step]

theorem holdsBytes_keepingLast : keepingLast.state.HoldsBytes := by
  have hreachable : Reachable {} keepingLast :=
    (Reachable.create (by decide) (ByteCycle.mk #[] 0) .warning).afterCalls _
  exact hreachable.sound.state.valid.holdsBytes

/-- The block ends with the last byte of memory, and the digits are loaded over the register that
they show. -/
theorem registers_survive_memory_keepingLast :
    (∃ stored loaded, execute (Transfer.store 2).instruction keepingLast = .ok () stored ∧
      execute (Transfer.load 2).instruction
          { stored with state := { stored.state with registers := Array.replicate 16 0 } } =
        .ok () loaded ∧
      loaded.state.register 2 = .ok 254) ∧
    ∃ written loaded, execute (Transfer.decimal 2).instruction keepingLast = .ok () written ∧
      execute (Transfer.load 2).instruction written = .ok () loaded ∧
      loaded.state.ShowsDigits 254 := by
  have hindex : keepingLast.state.index = 4093 := by decide +kernel
  have hregister : keepingLast.state.register 2 = .ok 254 := by decide +kernel
  obtain ⟨hblocks, hdecimal⟩ := registers_survive_memory holdsBytes_keepingLast 2
  rw [hindex] at hblocks hdecimal
  obtain ⟨⟨stored, hstore, houtside, hloads⟩, -⟩ := hblocks (by decide)
  obtain ⟨written, loaded, hwrite, hload, value, hvalue, hdigits⟩ := hdecimal (by decide)
  constructor
  · have hsize : stored.state.memory.size = memorySize := by
      rw [houtside.size_eq, holdsBytes_keepingLast.memory_size]
    have hforward : 0 ≤ stored.state.index := by
      rw [houtside.index_eq, hindex]
      decide
    obtain ⟨loaded, hload, -, hregisters⟩ := hloads (Array.replicate 16 0)
      { memory_size := hsize
        registers_size := rfl
        registers_range := fun hmem => by rw [Array.eq_of_mem_replicate hmem]; decide
        index_nonneg := hforward }
    have hloaded := hregisters 2
    rw [if_pos (Fin.le_refl 2)] at hloaded
    exact ⟨stored, loaded, hstore, hload, hloaded.trans hregister⟩
  · cases hregister.symm.trans hvalue
    exact ⟨written, loaded, hwrite, hload, hdigits⟩

end Machine

end Chip8
