import Chip8.Proofs.Block
import Chip8.State.Effect

/-!
# Registers as bytes

A valid state has sixteen registers and each of them holds a byte. `v` reads a register as a byte
and `setV` stores one; on a valid state every instruction that works on registers is described by
these two, and none of them can fail.
-/

namespace Chip8.State

theorem Valid.memory_size {state : State} (hvalid : state.Valid) :
    state.memory.size = memorySize :=
  hvalid.1

theorem Valid.registers_size {state : State} (hvalid : state.Valid) :
    state.registers.size = registerCount :=
  hvalid.2.1

theorem Valid.registers_range {state : State} (hvalid : state.Valid) {value : Int}
    (hmem : value ∈ state.registers) : 0 ≤ value ∧ value ≤ 0xFF :=
  hvalid.2.2.1 value hmem.val

theorem Valid.index_range {state : State} (hvalid : state.Valid) :
    0 ≤ state.index ∧ state.index ≤ 0xFFFF :=
  hvalid.2.2.2.1

theorem Valid.pc_range {state : State} (hvalid : state.Valid) :
    0 ≤ state.pc ∧ state.pc ≤ 0xFFFF :=
  hvalid.2.2.2.2.1

theorem Valid.resumePc_range {state : State} (hvalid : state.Valid) :
    0 ≤ state.resumePc ∧ state.resumePc ≤ 0xFFFF :=
  hvalid.2.2.2.2.2.1

theorem Valid.delay_range {state : State} (hvalid : state.Valid) :
    0 ≤ state.delayTimer ∧ state.delayTimer ≤ 0xFF :=
  hvalid.2.2.2.2.2.2.2.1

theorem Valid.sound_range {state : State} (hvalid : state.Valid) :
    0 ≤ state.soundTimer ∧ state.soundTimer ≤ 0xFF :=
  hvalid.2.2.2.2.2.2.2.2.1

theorem Valid.keyRegister_range {state : State} (hvalid : state.Valid) :
    0 ≤ state.keyRegister ∧ state.keyRegister < 16 :=
  hvalid.2.2.2.2.2.2.2.2.2.1

theorem Valid.jump {state : State} (hvalid : state.Valid) {target : Int}
    (htarget : 0 ≤ target ∧ target ≤ 0xFFFF) : (state.jump target).Valid := by
  obtain ⟨hmemory, hsize, hregisters, hindex, -, hrest⟩ := hvalid
  exact ⟨hmemory, hsize, hregisters, hindex, htarget, hrest⟩

theorem Valid.loadIndex {state : State} (hvalid : state.Valid) {address : Int}
    (haddress : 0 ≤ address ∧ address ≤ 0xFFFF) : (state.loadIndex address).Valid := by
  obtain ⟨hmemory, hsize, hregisters, -, hrest⟩ := hvalid
  exact ⟨hmemory, hsize, hregisters, haddress, hrest⟩

/-- What the instructions that work on registers and on memory rely on: both have their sizes, the
registers hold bytes and the index is not negative. -/
structure HoldsBytes (state : State) : Prop where
  memory_size : state.memory.size = memorySize
  registers_size : state.registers.size = registerCount
  registers_range {value : Int} (hmem : value ∈ state.registers) : 0 ≤ value ∧ value ≤ 0xFF
  index_nonneg : 0 ≤ state.index

theorem Valid.holdsBytes {state : State} (hvalid : state.Valid) : state.HoldsBytes :=
  ⟨hvalid.memory_size, hvalid.registers_size, hvalid.registers_range, hvalid.index_range.1⟩

/-- The byte in register `x`; zero if there is no such register. -/
def v (state : State) (x : Nat) : UInt8 :=
  UInt8.ofInt (state.registers.getD x 0)

def setV (state : State) (x : Nat) (value : UInt8) : State :=
  { state with registers := state.registers.setIfInBounds x value.toNat }

def i (state : State) : Nat :=
  state.index.toNat

/-- Stores one in the flag register if `flag` holds, and zero otherwise. -/
def raise (state : State) (flag : Bool) : State :=
  state.setV 0xF (if flag then 1 else 0)

theorem toNat_ofInt (value : Int) : ((UInt8.ofInt value).toNat : Int) = lowByte value := by
  rw [UInt8.ofInt, UInt8.toNat_ofNat', lowByte]
  omega

@[simp]
theorem ofInt_toNat (byte : UInt8) : UInt8.ofInt (byte.toNat : Int) = byte := by
  apply UInt8.toNat_inj.mp
  have hbyte := byte.toNat_lt
  have hlow := toNat_ofInt (byte.toNat : Int)
  rw [lowByte] at hlow
  omega

@[simp]
theorem registers_size_setV (state : State) (x : Nat) (value : UInt8) :
    (state.setV x value).registers.size = state.registers.size := by
  simp [setV]

@[simp]
theorem registers_size_raise (state : State) (flag : Bool) :
    (state.raise flag).registers.size = state.registers.size :=
  registers_size_setV state _ _

theorem v_setV {state : State} {x : Nat} (hx : x < state.registers.size) (value : UInt8) :
    (state.setV x value).v x = value := by
  rw [v, setV]
  simp [hx]

theorem getD_registers {state : State} (hbytes : state.HoldsBytes) {x : Nat} (hx : x < 16) :
    state.registers.getD x 0 = (state.v x).toNat := by
  have hplace : x < state.registers.size := by
    rw [hbytes.registers_size]
    exact hx
  have hrange := hbytes.registers_range (Array.getElem_mem hplace)
  rw [v, toNat_ofInt, lowByte]
  simp only [Array.getD, hplace, ↓reduceDIte, Array.getInternal_eq_getElem]
  omega

theorem register_eq {state : State} (hbytes : state.HoldsBytes) {x : Nat} (hx : x < 16) :
    state.register x = .ok ((state.v x).toNat : Int) := by
  have hplace : x < state.registers.size := by
    rw [hbytes.registers_size]
    exact hx
  rw [register, SignedIndex.get?_ofNat hplace 0, getD_registers hbytes hx]

theorem setRegister_eq {state : State} (hsize : state.registers.size = registerCount) {x : Nat}
    (hx : x < 16) (value : Int) :
    state.setRegister x value = .ok () (state.setV x (UInt8.ofInt value)) := by
  have hplace : x < state.registers.size := by
    rw [hsize]
    exact hx
  rw [setRegister, SignedIndex.set?_ofNat hplace, setV, toNat_ofInt]

theorem setFlag_eq {state : State} (hsize : state.registers.size = registerCount) (flag : Bool) :
    state.setFlag flag = .ok () (state.raise flag) := by
  have hset := setRegister_eq hsize (x := 0xF) (by decide) (if flag then 1 else 0)
  cases flag <;> exact hset

theorem HoldsBytes.index_eq {state : State} (hbytes : state.HoldsBytes) :
    state.index = (state.i : Int) := by
  have hindex := hbytes.index_nonneg
  rw [i]
  omega

theorem Valid.index_eq {state : State} (hvalid : state.Valid) : state.index = (state.i : Int) :=
  hvalid.holdsBytes.index_eq

theorem Valid.setV {state : State} (hvalid : state.Valid) (x : Nat) (value : UInt8) :
    (state.setV x value).Valid := by
  obtain ⟨hmemory, hsize, hregisters, hrest⟩ := hvalid
  refine ⟨hmemory, (registers_size_setV state x value).trans hsize, ?_, hrest⟩
  intro stored hstored
  have hvalue := value.toNat_lt
  rw [State.setV, Array.toList_setIfInBounds] at hstored
  cases List.mem_or_eq_of_mem_set hstored with
  | inl hold => exact hregisters stored hold
  | inr hnew => omega

theorem Valid.raise {state : State} (hvalid : state.Valid) (flag : Bool) :
    (state.raise flag).Valid :=
  hvalid.setV _ _

/-! ### Arithmetic on bytes -/

theorem ofInt_eq_of_mod {value : Int} {byte : UInt8} (h : value % 0x100 = byte.toNat) :
    UInt8.ofInt value = byte := by
  apply UInt8.toNat_inj.mp
  have hvalue := toNat_ofInt value
  rw [lowByte, h] at hvalue
  exact_mod_cast hvalue

theorem ofInt_add (left right : UInt8) :
    UInt8.ofInt (left.toNat + right.toNat) = left + right := by
  apply ofInt_eq_of_mod
  rw [UInt8.toNat_add]
  omega

theorem ofInt_sub (left right : UInt8) :
    UInt8.ofInt (left.toNat - right.toNat) = left - right := by
  apply ofInt_eq_of_mod
  have hright := right.toNat_lt
  rw [UInt8.toNat_sub]
  omega

theorem ofInt_half (byte : UInt8) : UInt8.ofInt (byte.toNat / 2) = byte >>> 1 := by
  apply ofInt_eq_of_mod
  have hbyte := byte.toNat_lt
  rw [UInt8.toNat_shiftRight, Nat.shiftRight_eq_div_pow]
  simp
  omega

theorem ofInt_double (byte : UInt8) : UInt8.ofInt (byte.toNat * 2) = byte <<< 1 := by
  apply ofInt_eq_of_mod
  rw [UInt8.toNat_shiftLeft, Nat.shiftLeft_eq]
  simp

theorem ofInt_natCast (value : Nat) : UInt8.ofInt (value : Int) = UInt8.ofNat value := by
  apply ofInt_eq_of_mod
  rw [UInt8.toNat_ofNat']
  omega

theorem toNat_lowByte_toNat (byte : UInt8) : (lowByte byte.toNat).toNat = byte.toNat := by
  have hbyte := byte.toNat_lt
  rw [lowByte]
  omega

theorem ofInt_or (left right : UInt8) :
    UInt8.ofInt (onLowBytes (· ||| ·) left.toNat right.toNat) = left ||| right := by
  rw [onLowBytes, toNat_lowByte_toNat, toNat_lowByte_toNat, ← UInt8.toNat_or, ofInt_toNat]

theorem ofInt_and (left right : UInt8) :
    UInt8.ofInt (onLowBytes (· &&& ·) left.toNat right.toNat) = left &&& right := by
  rw [onLowBytes, toNat_lowByte_toNat, toNat_lowByte_toNat, ← UInt8.toNat_and, ofInt_toNat]

theorem ofInt_xor (left right : UInt8) :
    UInt8.ofInt (onLowBytes (· ^^^ ·) left.toNat right.toNat) = left ^^^ right := by
  rw [onLowBytes, toNat_lowByte_toNat, toNat_lowByte_toNat, ← UInt8.toNat_xor, ofInt_toNat]

theorem ofInt_add_natCast (value : UInt8) (constant : Nat) :
    UInt8.ofInt (value.toNat + constant) = value + UInt8.ofNat constant := by
  apply ofInt_eq_of_mod
  rw [UInt8.toNat_add, UInt8.toNat_ofNat']
  omega

theorem ofInt_and_natCast (value : UInt8) (constant : Nat) :
    UInt8.ofInt (onLowBytes (· &&& ·) value.toNat constant) = value &&& UInt8.ofNat constant := by
  have hlow : (lowByte constant).toNat = (UInt8.ofNat constant).toNat := by
    rw [lowByte, UInt8.toNat_ofNat']
    omega
  rw [onLowBytes, toNat_lowByte_toNat, hlow, ← UInt8.toNat_and, ofInt_toNat]

theorem natCast_beq_natCast (left right : UInt8) :
    ((left.toNat : Int) == right.toNat) = (left == right) := by
  rw [Bool.eq_iff_iff, beq_iff_eq, beq_iff_eq, ← UInt8.toNat_inj]
  omega

theorem natCast_beq_ofNat (value : UInt8) {constant : Nat} (hconstant : constant < 0x100) :
    ((value.toNat : Int) == constant) = (value == UInt8.ofNat constant) := by
  rw [Bool.eq_iff_iff, beq_iff_eq, beq_iff_eq, ← UInt8.toNat_inj, UInt8.toNat_ofNat']
  omega

/-! ### Instructions -/

section Effects

variable {state : State} {x y : Nat}

theorem jumpOffset_eq (hvalid : state.Valid) (target : Nat) :
    state.jumpOffset target =
      .ok () (state.jump (((target + (state.v 0).toNat) % 0x10000 : Nat) : Int)) := by
  have hregister : state.register 0 = .ok ((state.v 0).toNat : Int) :=
    register_eq hvalid.holdsBytes (by decide : 0 < 16)
  have htarget : lowWord (target + (state.v 0).toNat) =
      ((target + (state.v 0).toNat) % 0x10000 : Nat) := by
    rw [lowWord]
    omega
  rw [jumpOffset, ask_bind hregister, ← htarget]
  rfl

theorem skipIf_eq (state : State) (condition : Bool) :
    state.skipIf condition = { state with pc := state.pc + if condition then 2 else 0 } := by
  cases condition
  · simp [skipIf]
  · rfl

theorem skipIfRegister_eq (hvalid : state.Valid) (hx : x < 16) (condition : Int → Bool) :
    state.skipIfRegister x condition = .ok () (state.skipIf (condition (state.v x).toNat)) := by
  rw [skipIfRegister, ask_bind (register_eq hvalid.holdsBytes hx)]
  rfl

theorem skipIfRegisters_eq (hvalid : state.Valid) (hx : x < 16) (hy : y < 16)
    (condition : Int → Int → Bool) :
    state.skipIfRegisters x y condition =
      .ok () (state.skipIf (condition (state.v x).toNat (state.v y).toNat)) := by
  rw [skipIfRegisters, ask_bind (register_eq hvalid.holdsBytes hx),
    ask_bind (register_eq hvalid.holdsBytes hy)]
  rfl

theorem addByte_eq (hvalid : state.Valid) (hx : x < 16) (byte : Int) :
    state.addByte x byte = .ok () (state.setV x (UInt8.ofInt ((state.v x).toNat + byte))) := by
  rw [addByte, ask_bind (register_eq hvalid.holdsBytes hx)]
  exact setRegister_eq hvalid.registers_size hx _

theorem copy_eq (hvalid : state.Valid) (hx : x < 16) (hy : y < 16) :
    state.copy x y = .ok () (state.setV x (state.v y)) := by
  have hset := setRegister_eq hvalid.registers_size hx (state.v y).toNat
  rw [ofInt_toNat] at hset
  rw [copy, ask_bind (register_eq hvalid.holdsBytes hy)]
  exact hset

theorem combine_eq (hvalid : state.Valid) (hx : x < 16) (hy : y < 16)
    (result : Int → Int → Int) :
    state.combine x y result =
      .ok () (state.setV x (UInt8.ofInt (result (state.v x).toNat (state.v y).toNat))) := by
  rw [combine, ask_bind (register_eq hvalid.holdsBytes hx),
    ask_bind (register_eq hvalid.holdsBytes hy)]
  exact setRegister_eq hvalid.registers_size hx _

/-- The flag is stored before the result, which therefore stays where both go to one register. -/
theorem setFlag_setRegister_eq (hsize : state.registers.size = registerCount) (hx : x < 16)
    (flag : Bool) (value : Int) :
    (setFlag flag >>= fun _ => setRegister x value) state =
      .ok () ((state.raise flag).setV x (UInt8.ofInt value)) := by
  rw [bind_of_ok (setFlag_eq hsize flag)]
  exact setRegister_eq ((registers_size_raise state _).trans hsize) hx _

theorem combineWithFlag_eq (hvalid : state.Valid) (hx : x < 16) (hy : y < 16)
    (flag : Int → Int → Bool) (result : Int → Int → Int) :
    state.combineWithFlag x y flag result =
      .ok () ((state.raise (flag (state.v x).toNat (state.v y).toNat)).setV x
        (UInt8.ofInt (result (state.v x).toNat (state.v y).toNat))) := by
  rw [combineWithFlag, ask_bind (register_eq hvalid.holdsBytes hx),
    ask_bind (register_eq hvalid.holdsBytes hy)]
  exact setFlag_setRegister_eq hvalid.registers_size hx _ _

theorem shift_eq (hvalid : state.Valid) (hx : x < 16) (flag : Int → Bool) (result : Int → Int) :
    state.shift x flag result =
      .ok () ((state.raise (flag (state.v x).toNat)).setV x
        (UInt8.ofInt (result (state.v x).toNat))) := by
  rw [shift, ask_bind (register_eq hvalid.holdsBytes hx)]
  exact setFlag_setRegister_eq hvalid.registers_size hx _ _

theorem add_eq (hvalid : state.Valid) (hx : x < 16) (hy : y < 16) :
    state.add x y =
      .ok () ((state.raise (decide (0xFF < (state.v x).toNat + (state.v y).toNat))).setV x
        (state.v x + state.v y)) := by
  rw [add, combineWithFlag_eq hvalid hx hy, ofInt_add]
  have hflag : (0xFF : Int) < (state.v x).toNat + (state.v y).toNat ↔
      0xFF < (state.v x).toNat + (state.v y).toNat := by
    omega
  simp only [hflag]

theorem subtract_eq (hvalid : state.Valid) (hx : x < 16) (hy : y < 16) :
    state.subtract x y =
      .ok () ((state.raise (decide (state.v y ≤ state.v x))).setV x (state.v x - state.v y)) := by
  rw [subtract, combineWithFlag_eq hvalid hx hy, ofInt_sub]
  simp only [UInt8.le_iff_toNat_le, Int.ofNat_le]

theorem subtractFrom_eq (hvalid : state.Valid) (hx : x < 16) (hy : y < 16) :
    state.subtractFrom x y =
      .ok () ((state.raise (decide (state.v x ≤ state.v y))).setV x (state.v y - state.v x)) := by
  rw [subtractFrom, combineWithFlag_eq hvalid hx hy, ofInt_sub]
  simp only [UInt8.le_iff_toNat_le, Int.ofNat_le]

theorem shiftRight_eq (hvalid : state.Valid) (hx : x < 16) :
    state.shiftRight x =
      .ok () ((state.raise ((state.v x).toNat.testBit 0)).setV x (state.v x >>> 1)) := by
  have hflag : (((state.v x).toNat : Int) % 2 == 1) = (state.v x).toNat.testBit 0 := by
    rw [Bool.eq_iff_iff, beq_iff_eq, Nat.testBit_zero, decide_eq_true_iff]
    omega
  rw [shiftRight, shift_eq hvalid hx, ofInt_half, hflag]

theorem shiftLeft_eq (hvalid : state.Valid) (hx : x < 16) :
    state.shiftLeft x =
      .ok () ((state.raise ((state.v x).toNat.testBit 7)).setV x (state.v x <<< 1)) := by
  have hflag : (((state.v x).toNat : Int) / 0x80 % 2 == 1) = (state.v x).toNat.testBit 7 := by
    rw [Bool.eq_iff_iff, beq_iff_eq, Nat.testBit_eq_decide_div_mod_eq, decide_eq_true_iff]
    omega
  rw [shiftLeft, shift_eq hvalid hx, ofInt_double, hflag]

theorem addIndex_eq (hvalid : state.Valid) (hx : x < 16) :
    state.addIndex x =
      .ok () (state.loadIndex (((state.i + (state.v x).toNat) % 0x10000 : Nat) : Int)) := by
  have hindex : lowWord (state.index + (state.v x).toNat) =
      ((state.i + (state.v x).toNat) % 0x10000 : Nat) := by
    rw [lowWord, hvalid.index_eq]
    omega
  rw [addIndex, ask_bind (register_eq hvalid.holdsBytes hx), ← hindex]
  rfl

theorem glyph_eq (hvalid : state.Valid) (hx : x < 16) :
    state.glyph x = .ok () (state.loadIndex ((5 * (state.v x).toNat : Nat) : Int)) := by
  have hindex : ((state.v x).toNat : Int) * Font.stride = (5 * (state.v x).toNat : Nat) := by
    rw [Font.stride]
    omega
  rw [glyph, ask_bind (register_eq hvalid.holdsBytes hx), ← hindex]
  rfl

theorem setDelay_eq (hvalid : state.Valid) (hx : x < 16) :
    state.setDelay x = .ok () { state with delayTimer := (state.v x).toNat } := by
  rw [setDelay, ask_bind (register_eq hvalid.holdsBytes hx)]
  rfl

theorem setSound_eq (hvalid : state.Valid) (hx : x < 16) :
    state.setSound x = .ok () { state with soundTimer := (state.v x).toNat } := by
  rw [setSound, ask_bind (register_eq hvalid.holdsBytes hx)]
  rfl

end Effects

end Chip8.State
