import Chip8.Proofs.InstructionTable

/-!
# Decoding

The decoder looks a word up by its first digit and then by its last ones. An operation other than
`invalid` stands for exactly the words with its digits, and the words for which none stands are
those that the instruction table does not support.
-/

namespace Chip8

namespace Operation

/-- The hexadecimal digits, highest first, of the words that stand for an operation. -/
def HasDigits : Operation → Nat → Nat → Nat → Nat → Prop
  | clear, a, x, y, n => a = 0x0 ∧ x = 0x0 ∧ y = 0xE ∧ n = 0x0
  | ret, a, x, y, n => a = 0x0 ∧ x = 0x0 ∧ y = 0xE ∧ n = 0xE
  | jump, a, _, _, _ => a = 0x1
  | call, a, _, _, _ => a = 0x2
  | skipIfByte, a, _, _, _ => a = 0x3
  | skipUnlessByte, a, _, _, _ => a = 0x4
  | skipIfEqual, a, _, _, n => a = 0x5 ∧ n = 0x0
  | loadByte, a, _, _, _ => a = 0x6
  | addByte, a, _, _, _ => a = 0x7
  | copy, a, _, _, n => a = 0x8 ∧ n = 0x0
  | bitOr, a, _, _, n => a = 0x8 ∧ n = 0x1
  | bitAnd, a, _, _, n => a = 0x8 ∧ n = 0x2
  | bitXor, a, _, _, n => a = 0x8 ∧ n = 0x3
  | add, a, _, _, n => a = 0x8 ∧ n = 0x4
  | subtract, a, _, _, n => a = 0x8 ∧ n = 0x5
  | shiftRight, a, _, _, n => a = 0x8 ∧ n = 0x6
  | subtractFrom, a, _, _, n => a = 0x8 ∧ n = 0x7
  | shiftLeft, a, _, _, n => a = 0x8 ∧ n = 0xE
  | skipUnlessEqual, a, _, _, n => a = 0x9 ∧ n = 0x0
  | loadIndex, a, _, _, _ => a = 0xA
  | jumpOffset, a, _, _, _ => a = 0xB
  | random, a, _, _, _ => a = 0xC
  | draw, a, _, _, _ => a = 0xD
  | skipIfPressed, a, _, y, n => a = 0xE ∧ y = 0x9 ∧ n = 0xE
  | skipUnlessPressed, a, _, y, n => a = 0xE ∧ y = 0xA ∧ n = 0x1
  | readDelay, a, _, y, n => a = 0xF ∧ y = 0x0 ∧ n = 0x7
  | awaitKey, a, _, y, n => a = 0xF ∧ y = 0x0 ∧ n = 0xA
  | setDelay, a, _, y, n => a = 0xF ∧ y = 0x1 ∧ n = 0x5
  | setSound, a, _, y, n => a = 0xF ∧ y = 0x1 ∧ n = 0x8
  | addIndex, a, _, y, n => a = 0xF ∧ y = 0x1 ∧ n = 0xE
  | glyph, a, _, y, n => a = 0xF ∧ y = 0x2 ∧ n = 0x9
  | decimal, a, _, y, n => a = 0xF ∧ y = 0x3 ∧ n = 0x3
  | store, a, _, y, n => a = 0xF ∧ y = 0x5 ∧ n = 0x5
  | load, a, _, y, n => a = 0xF ∧ y = 0x6 ∧ n = 0x5
  | invalid, _, _, _, _ => True

/-- The digits of a word, the highest first, are those of an operation. -/
def Fits (operation : Operation) (word : Nat) : Prop :=
  operation.HasDigits (word / 0x1000) (word / 0x100 % 0x10) (word / 0x10 % 0x10) (word % 0x10)

section Families

variable {word : Nat}

theorem ofSystemWord_fits (hfamily : word / 0x1000 = 0x0) : (ofSystemWord word).Fits word := by
  unfold ofSystemWord
  split
  · exact ⟨rfl, rfl, rfl, rfl⟩
  · exact ⟨rfl, rfl, rfl, rfl⟩
  · exact trivial

theorem ofArithmeticDigit_fits (hfamily : word / 0x1000 = 0x8) :
    (ofArithmeticDigit (word % 0x10)).Fits word := by
  unfold ofArithmeticDigit
  split <;> first | exact trivial | exact ⟨hfamily, by assumption⟩

theorem ofKeyByte_fits (hfamily : word / 0x1000 = 0xE) :
    (ofKeyByte (word % 0x100)).Fits word := by
  unfold ofKeyByte
  split <;> first | exact trivial | exact ⟨hfamily, by omega, by omega⟩

theorem ofDeviceByte_fits (hfamily : word / 0x1000 = 0xF) :
    (ofDeviceByte (word % 0x100)).Fits word := by
  unfold ofDeviceByte
  split <;> first | exact trivial | exact ⟨hfamily, by omega, by omega⟩

theorem ofWord_fits (hword : word < 0x10000) : (ofWord word).Fits word := by
  unfold ofWord
  split
  -- The families with a table of their own come first, then those with one digit left to check.
  case h_1 hfamily => exact ofSystemWord_fits hfamily
  case h_9 hfamily => exact ofArithmeticDigit_fits hfamily
  case h_15 hfamily => exact ofKeyByte_fits hfamily
  case h_16 =>
    simp only [imp_false] at *
    exact ofDeviceByte_fits (by omega)
  case h_6 hfamily =>
    split
    · exact ⟨hfamily, by assumption⟩
    · exact trivial
  case h_10 hfamily =>
    split
    · exact ⟨hfamily, by assumption⟩
    · exact trivial
  all_goals assumption

end Families

theorem ofWord_eq_of_fits {operation : Operation} {word : Nat} (hvalid : operation ≠ invalid)
    (hfits : operation.Fits word) : ofWord word = operation := by
  have hbyte : word % 0x100 = 0x10 * (word / 0x10 % 0x10) + word % 0x10 := by omega
  have hsystem : word / 0x1000 = 0 → word / 0x100 % 0x10 = 0 → word = word % 0x100 := by omega
  unfold Fits at hfits
  cases operation <;> simp only [HasDigits] at hfits
  case invalid => exact absurd rfl hvalid
  case clear =>
    obtain ⟨hfamily, hx, hy, hn⟩ := hfits
    have hword : word = 0xE0 := by omega
    rw [hword]
    rfl
  case ret =>
    obtain ⟨hfamily, hx, hy, hn⟩ := hfits
    have hword : word = 0xEE := by omega
    rw [hword]
    rfl
  all_goals simp [ofWord, hfits, hbyte, ofArithmeticDigit, ofKeyByte, ofDeviceByte]

theorem ofWord_eq_unsupported {word : Nat} (hoperation : ofWord word = invalid)
    (state : State) (keypad : Keypad) :
    Effect.ofWord state keypad word = .unsupported := by
  have hbyte : word % 0x100 = 0x10 * (word / 0x10 % 0x10) + word % 0x10 := by omega
  unfold Effect.ofWord Effect.ofDigits
  split
  -- In the last row there is nothing to show; no other row has a word without an operation.
  case h_35 => rfl
  case h_1 =>
    have hword : word = 0xE0 := by omega
    rw [hword] at hoperation
    exact absurd hoperation (by decide)
  case h_2 =>
    have hword : word = 0xEE := by omega
    rw [hword] at hoperation
    exact absurd hoperation (by decide)
  all_goals simp_all [ofWord, ofArithmeticDigit, ofKeyByte, ofDeviceByte]

end Operation
end Chip8
