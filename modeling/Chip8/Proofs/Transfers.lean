import Chip8.Proofs.MachineInvariant

/-!
# Transfers between memory and the machine

Four instructions move a block of bytes at the index: two write it, one reads it into registers and
one draws it. A block with a byte outside memory is refused, and any other is moved byte by byte.
An empty block has no byte outside memory, but it is refused, too, if it begins behind the end.
-/

namespace Chip8

theorem Effect.digits_eq (a : Nat) {x y n : Nat} (hx : x < 16) (hy : y < 16) (hn : n < 16) :
    (0x1000 * a + address x y n) / 0x1000 = a ∧
      (0x1000 * a + address x y n) / 0x100 % 0x10 = x ∧
      (0x1000 * a + address x y n) / 0x10 % 0x10 = y ∧
      (0x1000 * a + address x y n) % 0x10 = n := by
  rw [address]
  omega

theorem Effect.ofWord_of_digits (state : State) (keypad : Keypad) (a : Nat) {x y n : Nat}
    (hx : x < 16) (hy : y < 16) (hn : n < 16) :
    ofWord state keypad (0x1000 * a + address x y n) = ofDigits state keypad a x y n := by
  obtain ⟨ha, hx, hy, hn⟩ := digits_eq a hx hy hn
  rw [ofWord, ha, hx, hy, hn]

/-- The instructions that move a block of memory, with the digits of their words. -/
inductive Transfer where
  | decimal (x : Fin 16)
  | store (x : Fin 16)
  | load (x : Fin 16)
  | draw (x y rows : Fin 16)

/-- The memory after a write has the data in the block from the index on, and the old bytes
elsewhere. -/
def State.Writes (state after : State) (data : List UInt8) : Prop :=
  ∀ address, after.byte address =
    if state.i ≤ address ∧ address < state.i + data.length then data.getD (address - state.i) 0
    else state.byte address

namespace Transfer

variable {source : Type}

def word : Transfer → Nat
  | decimal x => 0xF000 + Effect.address x 0x3 0x3
  | store x => 0xF000 + Effect.address x 0x5 0x5
  | load x => 0xF000 + Effect.address x 0x6 0x5
  | draw x y rows => 0xD000 + Effect.address x y rows

/-- The number of bytes that are moved. -/
def count : Transfer → Nat
  | decimal _ => 3
  | store x | load x => x + 1
  | draw _ _ rows => rows

/-- Some byte of the block at the index lies outside memory. -/
def LeavesMemory (transfer : Transfer) (index : Int) : Prop :=
  ∃ offset : Nat, offset < transfer.count ∧
    ¬(0 ≤ index + offset ∧ index + offset < memorySize)

/-- The block at the index is empty and begins behind the end of memory. -/
def EmptyBehind (transfer : Transfer) (index : Int) : Prop :=
  transfer.count = 0 ∧ memorySize < index

/-- Exactly the bytes of the block are written, or exactly they are read. -/
def Moves (machine after : Machine source) : Transfer → Prop
  | decimal x => machine.state.Writes after.state (State.digits (machine.state.v x))
  | store x => machine.state.Writes after.state (machine.state.vs (x + 1))
  | load x =>
    after.state.memory = machine.state.memory ∧
      ∀ number < 16, after.state.v number =
        if number ≤ x then machine.state.byte (machine.state.i + number)
        else machine.state.v number
  | draw x y rows =>
    let column := (machine.state.v x).toNat
    let row := (machine.state.v y).toNat
    let sprite := machine.state.bytes machine.state.i rows
    after.state.memory = machine.state.memory ∧
      after.display = machine.display.blit column row sprite ∧
      after.state.v 0xF = if machine.display.collides column row sprite then 1 else 0

def effect (state : State) : Transfer → Effect
  | decimal x => .write (State.digits (state.v x))
  | store x => .write (state.vs (x + 1))
  | load x => .load x
  | draw x y rows => .draw (state.v x) (state.v y) rows

theorem ofWord_word (transfer : Transfer) (state : State) (keypad : Keypad) :
    Effect.ofWord state keypad transfer.word = transfer.effect state := by
  cases transfer with
  | decimal x => exact Effect.ofWord_of_digits state keypad 0xF x.isLt (by decide) (by decide)
  | store x => exact Effect.ofWord_of_digits state keypad 0xF x.isLt (by decide) (by decide)
  | load x => exact Effect.ofWord_of_digits state keypad 0xF x.isLt (by decide) (by decide)
  | draw x y rows => exact Effect.ofWord_of_digits state keypad 0xD x.isLt y.isLt rows.isLt

theorem outside_iff {index : Int} (hindex : 0 ≤ index) (transfer : Transfer) :
    memorySize < index + transfer.count ↔
      transfer.LeavesMemory index ∨ transfer.EmptyBehind index := by
  constructor
  · intro houtside
    by_cases hempty : transfer.count = 0
    · rw [hempty] at houtside
      exact Or.inr ⟨hempty, by omega⟩
    · exact Or.inl ⟨transfer.count - 1, by omega, by omega⟩
  · rintro (⟨offset, hoffset, hbyte⟩ | ⟨hempty, hbehind⟩)
    · omega
    · omega

variable [ByteSource source] {machine : Machine source} {transfer : Transfer}

theorem apply_effect_outside (houtside : memorySize < machine.state.i + transfer.count) :
    (transfer.effect machine.state).apply machine = .error (.outside transfer.count) := by
  cases transfer with
  | decimal x => exact if_pos houtside
  | store x =>
      have hdata : memorySize < machine.state.i + (machine.state.vs (x + 1)).length := by
        rw [State.length_vs]
        exact houtside
      rw [effect, Effect.apply, if_pos hdata, State.length_vs]
      rfl
  | load x => exact if_pos houtside
  | draw x y rows => exact if_pos houtside

theorem exists_apply_effect (hvalid : machine.state.Valid)
    (hinside : ¬memorySize < machine.state.i + transfer.count) :
    ∃ after, (transfer.effect machine.state).apply machine = .ok after ∧
      transfer.Moves machine after := by
  have hmemory := hvalid.memory_size
  have hregisters := hvalid.registers_size
  cases transfer with
  | decimal x =>
      refine ⟨_, if_neg hinside, ?_⟩
      apply State.byte_putBytes
      rw [hmemory]
      exact Nat.le_of_not_lt hinside
  | store x =>
      have hdata : ¬memorySize < machine.state.i + (machine.state.vs (x + 1)).length := by
        rw [State.length_vs]
        exact hinside
      refine ⟨_, if_neg hdata, ?_⟩
      apply State.byte_putBytes
      rw [hmemory]
      exact Nat.le_of_not_lt hdata
  | load x =>
      refine ⟨_, if_neg hinside, rfl, ?_⟩
      intro number hnumber
      have hlength := State.length_bytes machine.state machine.state.i (x + 1)
      have hroom : (machine.state.bytes machine.state.i (x + 1)).length ≤
          machine.state.registers.size := by
        rw [hlength, hregisters]
        exact x.isLt
      refine (State.v_setVs hroom number).trans ?_
      rw [hlength]
      by_cases hloaded : number ≤ x
      · have hinBlock : number < x + 1 := by omega
        rw [if_pos hinBlock, if_pos hloaded]
        simp [State.bytes, hinBlock]
      · rw [if_neg (by omega), if_neg hloaded]
  | draw x y rows =>
      refine ⟨_, if_neg hinside, rfl, rfl, ?_⟩
      apply State.v_setV
      rw [hregisters]
      decide

end Transfer

namespace Machine

variable {source : Type} [ByteSource source] {config : Config} {machine : Machine source}
  {transfer : Transfer}

/-- The next step is refused because of an access outside memory. -/
def RefusesAccess (machine : Machine source) : Prop :=
  ∃ address location after,
    step machine = .error (.fault (.accessOutOfBounds address location)) after

theorem transition_of_transfer_outside (hword : machine.state.word = transfer.word)
    (houtside : memorySize < machine.state.i + transfer.count) :
    machine.transition = .error (.outside transfer.count) := by
  have hadvanced : memorySize < machine.advancePc.state.i + transfer.count := houtside
  rw [transition, hword, transfer.ofWord_word]
  exact congrArg (· >>= _) (Transfer.apply_effect_outside hadvanced)

theorem exists_transition_of_transfer (hadvanced : machine.advancePc.state.Valid)
    (hword : machine.state.word = transfer.word)
    (hinside : ¬memorySize < machine.state.i + transfer.count) :
    ∃ after, machine.transition = .ok after ∧ transfer.Moves machine after := by
  have hblock : ¬memorySize < machine.advancePc.state.i + transfer.count := hinside
  obtain ⟨carried, happly, hmoves⟩ := Transfer.exists_apply_effect hadvanced hblock
  refine ⟨carried.countCycle, ?_, ?_⟩
  · rw [transition, hword, transfer.ofWord_word]
    exact congrArg (· >>= _) happly
  -- Neither the program counter nor the number of cycles is among what is moved.
  · cases transfer <;> exact hmoves

omit [ByteSource source] in
theorem moves_finishCycle {after : Machine source} (hmoves : transfer.Moves machine after)
    (pc : Int) (instruction : Instruction) (before : Snapshot) :
    transfer.Moves machine (after.finishCycle pc instruction before) := by
  rw [finishCycle_eq]
  cases transfer <;> exact hmoves

/-- An instruction that moves a block is refused exactly if some byte of the block lies outside
memory, or if the block is empty and begins behind the end of memory. Otherwise the step completes
and moves exactly the bytes of the block. -/
theorem Reachable.transfer_refused_iff (hreachable : Reachable config machine)
    (hrunning : machine.state.halted = false) (hnotWaiting : machine.state.awaitingKey = false)
    (hpc : machine.state.pc ≤ 4094) (hword : machine.state.word = transfer.word) :
    (machine.RefusesAccess ↔
      transfer.LeavesMemory machine.state.index ∨ transfer.EmptyBehind machine.state.index) ∧
    (¬machine.RefusesAccess →
      ∃ after, step machine = .ok (some (.decode machine.state.word)) after ∧
        transfer.Moves machine after) := by
  have hsound := hreachable.sound
  have hvalid := hsound.state.valid
  have hadvanced := (hsound.advancePc hnotWaiting hpc).state.valid
  have hstep := step_of_inside hvalid hsound.display hrunning hnotWaiting hpc
  rw [← transfer.outside_iff hvalid.index_range.1, hvalid.index_eq]
  by_cases houtside : memorySize < machine.state.i + transfer.count
  · rw [transition_of_transfer_outside hword houtside] at hstep
    have hrefuses : machine.RefusesAccess := ⟨_, _, _, hstep⟩
    exact ⟨iff_of_true hrefuses (by omega), fun hcompletes => absurd hrefuses hcompletes⟩
  · obtain ⟨after, htransition, hmoves⟩ := exists_transition_of_transfer hadvanced hword houtside
    rw [htransition] at hstep
    have hcompletes : ¬machine.RefusesAccess := by
      rintro ⟨address, location, failed, hfault⟩
      rw [hfault] at hstep
      cases hstep
    exact ⟨iff_of_false hcompletes (by omega),
      fun _ => ⟨_, hstep, moves_finishCycle hmoves _ _ _⟩⟩

/-- A machine that is to store a register in the last byte of memory. -/
def storingLast : Machine ByteCycle :=
  (Machine.create {} (ByteCycle.mk #[] 0)).afterCalls
    [.load [0x60, 0x2A, 0xAF, 0xFF, 0xF0, 0x55], .step, .step]

theorem reachable_storingLast : Reachable {} storingLast :=
  (Reachable.create (by decide) (ByteCycle.mk #[] 0) .warning).afterCalls _

theorem transfer_refused_iff_storingLast :
    ∃ after, step storingLast = .ok (some (.decode 0xF055)) after ∧
      after.state.byte 0xFFE = 0 ∧ after.state.byte 0xFFF = 0x2A := by
  have hrunning : storingLast.state.halted = false := by decide +kernel
  have hnotWaiting : storingLast.state.awaitingKey = false := by decide +kernel
  have hpc : storingLast.state.pc ≤ 4094 := by decide +kernel
  have hword : storingLast.state.word = (Transfer.store 0).word := by decide +kernel
  have hindex : storingLast.state.index = 0xFFF := by decide +kernel
  obtain ⟨hrefused, hcompletes⟩ :=
    reachable_storingLast.transfer_refused_iff hrunning hnotWaiting hpc hword
  have hinside :
      ¬((Transfer.store 0).LeavesMemory 0xFFF ∨ (Transfer.store 0).EmptyBehind 0xFFF) := by
    rw [← Transfer.outside_iff (by decide)]
    decide
  rw [← hindex, ← hrefused] at hinside
  obtain ⟨after, hstep, hwrites⟩ := hcompletes hinside
  rw [hword] at hstep
  refine ⟨after, hstep, ?_, ?_⟩
  · exact (hwrites 0xFFE).trans (by decide +kernel)
  · exact (hwrites 0xFFF).trans (by decide +kernel)

/-- A machine that is to draw no rows of a sprite behind the end of memory. -/
def drawingNothing : Machine ByteCycle :=
  (Machine.create {} (ByteCycle.mk #[] 0)).afterCalls
    [.load [0xAF, 0xFF, 0x60, 0x02, 0xF0, 0x1E, 0xD0, 0x00], .step, .step, .step]

/-- A transfer of no bytes can be refused, though none of them lies outside memory. -/
theorem exists_emptyTransfer_refused :
    ∃ (machine : Machine ByteCycle) (transfer : Transfer),
      Reachable {} machine ∧ machine.state.halted = false ∧ machine.state.awaitingKey = false ∧
        machine.state.pc ≤ 4094 ∧ machine.state.word = transfer.word ∧ machine.RefusesAccess ∧
        ¬transfer.LeavesMemory machine.state.index := by
  have hreachable : Reachable {} drawingNothing :=
    (Reachable.create (by decide) (ByteCycle.mk #[] 0) .warning).afterCalls _
  have hfailure : failure? (step drawingNothing) =
      some (.fault (.accessOutOfBounds 0x1000 (some 0x208))) := by decide +kernel
  refine ⟨drawingNothing, .draw 0 0 0, hreachable, by decide +kernel, by decide +kernel,
    by decide +kernel, by decide +kernel, ⟨_, _, _, eq_error_of_failure? hfailure⟩, ?_⟩
  rintro ⟨offset, hoffset, -⟩
  exact absurd hoffset (Nat.not_lt_zero offset)

end Machine

end Chip8
