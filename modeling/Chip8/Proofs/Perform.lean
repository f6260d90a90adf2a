import Chip8.Proofs.Decoding

/-!
# Performing an instruction

On a valid machine every instruction has the effect that the instruction table gives for its word. A
refused instruction leaves the machine as it is.
-/

namespace Chip8

/-- The effect as an action; a refusal becomes the fault of the word. -/
def Effect.run {source : Type} [ByteSource source] (effect : Effect) (word : Nat) :
    Machine.Action source Unit := fun machine =>
  match effect.apply machine with
  | .ok after => .ok () after
  | .error refusal => .error (.fault (refusal.fault machine.state word)) machine

namespace Instruction

theorem ofWord_x (word : Nat) : (ofWord word).x = (word / 0x100 % 0x10 : Nat) := rfl

theorem ofWord_y (word : Nat) : (ofWord word).y = (word / 0x10 % 0x10 : Nat) := rfl

theorem ofWord_n (word : Nat) : (ofWord word).n = (word % 0x10 : Nat) := rfl

theorem ofWord_nn (word : Nat) :
    (ofWord word).nn = (0x10 * (word / 0x10 % 0x10) + word % 0x10 : Nat) := by
  have hbyte : (ofWord word).nn = word % 0x100 := rfl
  omega

theorem ofWord_nnn (word : Nat) :
    (ofWord word).nnn =
      Effect.address (word / 0x100 % 0x10) (word / 0x10 % 0x10) (word % 0x10) := by
  have haddress : (ofWord word).nnn = word % 0x1000 := rfl
  rw [Effect.address]
  omega

end Instruction

theorem Keypad.isPressed_natCast (keypad : Keypad) (number : Nat) :
    keypad.isPressed number = keypad.mask.testBit number := by
  rw [isPressed, Key.ofInt?, mask]
  by_cases hkey : number < keyCount
  · rw [dif_pos ⟨by omega, by omega⟩]
    rfl
  · rw [dif_neg (by omega)]
    have hheld := keypad.held.isLt
    have hpower : 2 ^ keyCount ≤ 2 ^ number := Nat.pow_le_pow_right (by decide) (by omega)
    exact (Nat.testBit_lt_two_pow (by omega)).symm

namespace Machine

variable {source : Type} {machine : Machine source}

/-- A change that is refused before it has changed anything leaves the machine as it was. -/
theorem update_ite {change : State.Action Unit} {refused : Prop} [Decidable refused]
    {failure : Failure} {after : State}
    (hchange : change machine.state =
      if refused then .error failure machine.state else .ok () after) :
    update change machine =
      if refused then .error failure machine else .ok () { machine with state := after } := by
  split at hchange
  · rw [if_pos (by assumption)]
    exact update_error hchange
  · rw [if_neg (by assumption)]
    exact update_ok hchange

variable [ByteSource source]

theorem clearDisplay_eq (hsize : machine.display.HasSize 64 32) (word : Nat) :
    clearDisplay machine = Effect.clear.run word machine := by
  change EStateM.Result.ok () { machine with display := machine.display.clear }.requestRedraw = _
  rw [hsize.clear_eq_blank]
  rfl

theorem ret_eq (machine : Machine source) (word : Nat) :
    update State.ret machine = Effect.ret.run word machine := by
  have hret := machine.state.ret_eq
  rw [Effect.run, Effect.apply]
  cases hstack : machine.state.stack with
  | nil =>
      rw [hstack] at hret
      exact update_error hret
  | cons address stack =>
      rw [hstack] at hret
      exact update_ok hret

theorem call_eq (machine : Machine source) (word target : Nat) :
    call target machine = (Effect.call target).run word machine := by
  rw [call, update_ite (State.call_eq _ _ _), Effect.run, Effect.apply]
  split <;> rfl

theorem storeRandom_eq (hvalid : machine.state.Valid) {x : Nat} (hx : x < 16)
    (constant : Nat) (word : Nat) :
    storeRandom x constant machine = (Effect.random x (UInt8.ofNat constant)).run word machine := by
  have hset := State.setRegister_eq hvalid.registers_size hx
  simp only [storeRandom, bind, EStateM.bind, randomByte, update, hset,
    State.ofInt_and_natCast]
  rfl

theorem skipIfPressed_eq (hvalid : machine.state.Valid) {x : Nat} (hx : x < 16)
    (pressed : Bool) (word : Nat) :
    skipIfPressed x pressed machine =
      (Effect.skip (machine.keypad.mask.testBit (machine.state.v x).toNat == pressed)).run word
        machine := by
  rw [skipIfPressed, update_ok (State.skipIfRegister_eq hvalid hx _), State.skipIf_eq,
    Keypad.isPressed_natCast]
  rfl

theorem drawSprite_eq (hvalid : machine.state.Valid)
    (hsize : machine.display.HasSize 64 32) {x y : Nat} (hx : x < 16) (hy : y < 16)
    (rows word : Nat) :
    drawSprite x y rows machine =
      (Effect.draw (machine.state.v x) (machine.state.v y) rows).run word machine := by
  have hread : machine.state.readBlock machine.state.index rows = _ :=
    hvalid.index_eq ▸ State.readBlock_eq hvalid.memory_size machine.state.i rows
  have hflag := State.setFlag_eq hvalid.registers_size
  simp only [drawSprite, bind, EStateM.bind, ask, State.register_eq hvalid.holdsBytes hx,
    State.register_eq hvalid.holdsBytes hy, hread, Effect.run, Effect.apply]
  by_cases hinside : memorySize < machine.state.i + rows
  · simp only [if_pos hinside]
    rfl
  · simp only [if_neg hinside, draw, Display.draw_eq_blit hsize, update, hflag]
    rfl

theorem run_write (machine : Machine source) (data : List UInt8) (word : Nat) :
    (Effect.write data).run word machine =
      if memorySize < machine.state.i + data.length then
        .error (.fault (machine.state.outside machine.state.i data.length)) machine
      else
        .ok () { machine with state := machine.state.putBytes machine.state.i data } := by
  rw [Effect.run, Effect.apply]
  by_cases hinside : memorySize < machine.state.i + data.length
  · simp only [if_pos hinside]
    rfl
  · simp only [if_neg hinside]

theorem run_load (machine : Machine source) (x : Nat) (word : Nat) :
    (Effect.load x).run word machine =
      if memorySize < machine.state.i + (x + 1) then
        .error (.fault (machine.state.outside machine.state.i (x + 1))) machine
      else
        .ok () { machine with
          state := machine.state.setVs (machine.state.bytes machine.state.i (x + 1)) } := by
  rw [Effect.run, Effect.apply]
  by_cases hinside : memorySize < machine.state.i + (x + 1)
  · simp only [if_pos hinside]
    rfl
  · simp only [if_neg hinside]

/-- Every instruction has the effect of its row in the instruction table. -/
theorem perform_ofWord (hvalid : machine.state.Valid)
    (hsize : machine.display.HasSize 64 32) {word : Nat} (hword : word < 0x10000) :
    perform (Instruction.ofWord word) machine =
      (Effect.ofWord machine.state machine.keypad word).run word machine := by
  have hfits := Operation.ofWord_fits hword
  have hx : word / 0x100 % 0x10 < 16 := Nat.mod_lt _ (by decide)
  have hy : word / 0x10 % 0x10 < 16 := Nat.mod_lt _ (by decide)
  have hconstant : 0x10 * (word / 0x10 % 0x10) + word % 0x10 < 0x100 := by omega
  have hoperation : (Instruction.ofWord word).operation = Operation.ofWord word := rfl
  have hopcode : (Instruction.ofWord word).word = word := rfl
  simp only [perform, Instruction.ofWord_x, Instruction.ofWord_y, Instruction.ofWord_n,
    Instruction.ofWord_nn, Instruction.ofWord_nnn, hoperation, hopcode]
  rw [Operation.Fits] at hfits
  -- The digits that a word of the operation has select the row; the rest of each case compares the
  -- row's effect with what the operation does.
  cases hcase : Operation.ofWord word <;> rw [hcase] at hfits
  case invalid =>
    rw [Operation.ofWord_eq_unsupported hcase]
    rfl
  case clear =>
    obtain ⟨ha, hx, hy, hn⟩ := hfits
    rw [Effect.ofWord, ha, hx, hy, hn]
    exact clearDisplay_eq hsize word
  case ret =>
    obtain ⟨ha, hx, hy, hn⟩ := hfits
    rw [Effect.ofWord, ha, hx, hy, hn]
    exact ret_eq machine word
  case jump =>
    rw [Effect.ofWord, hfits]
    exact update_ok rfl
  case call =>
    rw [Effect.ofWord, hfits]
    exact call_eq machine word _
  case skipIfByte =>
    rw [Effect.ofWord, hfits]
    refine update_ok ?_
    rw [State.skipIfRegister_eq hvalid hx, State.skipIf_eq, State.natCast_beq_ofNat _ hconstant]
    rfl
  case skipUnlessByte =>
    rw [Effect.ofWord, hfits]
    refine update_ok ?_
    rw [State.skipIfRegister_eq hvalid hx, State.skipIf_eq, bne,
      State.natCast_beq_ofNat _ hconstant]
    rfl
  case skipIfEqual =>
    obtain ⟨ha, hn⟩ := hfits
    rw [Effect.ofWord, ha, hn]
    refine update_ok ?_
    rw [State.skipIfRegisters_eq hvalid hx hy, State.skipIf_eq, State.natCast_beq_natCast]
  case loadByte =>
    rw [Effect.ofWord, hfits]
    refine update_ok ?_
    rw [State.setRegister_eq hvalid.registers_size hx, State.ofInt_natCast]
    rfl
  case addByte =>
    rw [Effect.ofWord, hfits]
    refine update_ok ?_
    rw [State.addByte_eq hvalid hx, State.ofInt_add_natCast]
    rfl
  case copy =>
    obtain ⟨ha, hn⟩ := hfits
    rw [Effect.ofWord, ha, hn]
    exact update_ok (State.copy_eq hvalid hx hy)
  case bitOr =>
    obtain ⟨ha, hn⟩ := hfits
    rw [Effect.ofWord, ha, hn]
    refine update_ok ?_
    rw [State.combine_eq hvalid hx hy, State.ofInt_or]
  case bitAnd =>
    obtain ⟨ha, hn⟩ := hfits
    rw [Effect.ofWord, ha, hn]
    refine update_ok ?_
    rw [State.combine_eq hvalid hx hy, State.ofInt_and]
  case bitXor =>
    obtain ⟨ha, hn⟩ := hfits
    rw [Effect.ofWord, ha, hn]
    refine update_ok ?_
    rw [State.combine_eq hvalid hx hy, State.ofInt_xor]
  case add =>
    obtain ⟨ha, hn⟩ := hfits
    rw [Effect.ofWord, ha, hn]
    exact update_ok (State.add_eq hvalid hx hy)
  case subtract =>
    obtain ⟨ha, hn⟩ := hfits
    rw [Effect.ofWord, ha, hn]
    exact update_ok (State.subtract_eq hvalid hx hy)
  case shiftRight =>
    obtain ⟨ha, hn⟩ := hfits
    rw [Effect.ofWord, ha, hn]
    exact update_ok (State.shiftRight_eq hvalid hx)
  case subtractFrom =>
    obtain ⟨ha, hn⟩ := hfits
    rw [Effect.ofWord, ha, hn]
    exact update_ok (State.subtractFrom_eq hvalid hx hy)
  case shiftLeft =>
    obtain ⟨ha, hn⟩ := hfits
    rw [Effect.ofWord, ha, hn]
    exact update_ok (State.shiftLeft_eq hvalid hx)
  case skipUnlessEqual =>
    obtain ⟨ha, hn⟩ := hfits
    rw [Effect.ofWord, ha, hn]
    refine update_ok ?_
    rw [State.skipIfRegisters_eq hvalid hx hy, State.skipIf_eq, bne, State.natCast_beq_natCast]
    rfl
  case loadIndex =>
    rw [Effect.ofWord, hfits]
    exact update_ok rfl
  case jumpOffset =>
    rw [Effect.ofWord, hfits]
    exact update_ok (State.jumpOffset_eq hvalid _)
  case random =>
    rw [Effect.ofWord, hfits]
    exact storeRandom_eq hvalid hx _ word
  case draw =>
    rw [Effect.ofWord, hfits]
    exact drawSprite_eq hvalid hsize hx hy _ word
  case skipIfPressed =>
    obtain ⟨ha, hy, hn⟩ := hfits
    rw [Effect.ofWord, ha, hy, hn]
    have hskip := skipIfPressed_eq hvalid hx true word
    rw [beq_true] at hskip
    exact hskip
  case skipUnlessPressed =>
    obtain ⟨ha, hy, hn⟩ := hfits
    rw [Effect.ofWord, ha, hy, hn]
    have hskip := skipIfPressed_eq hvalid hx false word
    rw [beq_false] at hskip
    exact hskip
  case readDelay =>
    obtain ⟨ha, hy, hn⟩ := hfits
    rw [Effect.ofWord, ha, hy, hn]
    exact update_ok (State.setRegister_eq hvalid.registers_size hx _)
  case awaitKey =>
    obtain ⟨ha, hy, hn⟩ := hfits
    rw [Effect.ofWord, ha, hy, hn]
    rfl
  case setDelay =>
    obtain ⟨ha, hy, hn⟩ := hfits
    rw [Effect.ofWord, ha, hy, hn]
    exact update_ok (State.setDelay_eq hvalid hx)
  case setSound =>
    obtain ⟨ha, hy, hn⟩ := hfits
    rw [Effect.ofWord, ha, hy, hn]
    exact update_ok (State.setSound_eq hvalid hx)
  case addIndex =>
    obtain ⟨ha, hy, hn⟩ := hfits
    rw [Effect.ofWord, ha, hy, hn]
    exact update_ok (State.addIndex_eq hvalid hx)
  case glyph =>
    obtain ⟨ha, hy, hn⟩ := hfits
    rw [Effect.ofWord, ha, hy, hn]
    exact update_ok (State.glyph_eq hvalid hx)
  case decimal =>
    obtain ⟨ha, hy, hn⟩ := hfits
    rw [Effect.ofWord, ha, hy, hn]
    have hwrite := run_write machine (State.digits (machine.state.v (word / 0x100 % 0x10))) word
    exact (update_ite (State.decimal_eq hvalid.holdsBytes hx)).trans hwrite.symm
  case store =>
    obtain ⟨ha, hy, hn⟩ := hfits
    rw [Effect.ofWord, ha, hy, hn]
    -- The row bounds the block by the length of its data, the instruction by the register's number.
    have hwrite := run_write machine (machine.state.vs (word / 0x100 % 0x10 + 1)) word
    rw [State.length_vs] at hwrite
    exact (update_ite (State.store_eq hvalid.holdsBytes hx)).trans hwrite.symm
  case load =>
    obtain ⟨ha, hy, hn⟩ := hfits
    rw [Effect.ofWord, ha, hy, hn]
    exact (update_ite (State.load_eq hvalid.holdsBytes hx)).trans (run_load machine _ word).symm

end Machine

end Chip8
