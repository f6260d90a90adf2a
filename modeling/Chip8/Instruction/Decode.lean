import Chip8.Instruction.Basic
import Chip8.Text.Hexadecimal

/-!
Decoding: the instruction that a word stands for.

The first digit names a family. Ten families are one operation each; in the others the last one or
two digits, or the whole word, select it. Decoding is total: a word outside the table becomes
`Operation.invalid` and carries the reason.
-/

namespace Chip8

namespace Operation

/-- The operations `00NN`; the whole word has to match. -/
def ofSystemWord : Nat → Operation
  | 0x00E0 => clear
  | 0x00EE => ret
  | _ => invalid

/-- The operations `8XYN`, by `N`. -/
def ofArithmeticDigit : Nat → Operation
  | 0x0 => copy
  | 0x1 => bitOr
  | 0x2 => bitAnd
  | 0x3 => bitXor
  | 0x4 => add
  | 0x5 => subtract
  | 0x6 => shiftRight
  | 0x7 => subtractFrom
  | 0xE => shiftLeft
  | _ => invalid

/-- The operations `EXNN`, by `NN`. -/
def ofKeyByte : Nat → Operation
  | 0x9E => skipIfPressed
  | 0xA1 => skipUnlessPressed
  | _ => invalid

/-- The operations `FXNN`, by `NN`. -/
def ofDeviceByte : Nat → Operation
  | 0x07 => readDelay
  | 0x0A => awaitKey
  | 0x15 => setDelay
  | 0x18 => setSound
  | 0x1E => addIndex
  | 0x29 => glyph
  | 0x33 => decimal
  | 0x55 => store
  | 0x65 => load
  | _ => invalid

def ofWord (word : Nat) : Operation :=
  match word / 0x1000 with
  | 0x0 => ofSystemWord word
  | 0x1 => jump
  | 0x2 => call
  | 0x3 => skipIfByte
  | 0x4 => skipUnlessByte
  | 0x5 => if word % 0x10 = 0 then skipIfEqual else invalid
  | 0x6 => loadByte
  | 0x7 => addByte
  | 0x8 => ofArithmeticDigit (word % 0x10)
  | 0x9 => if word % 0x10 = 0 then skipUnlessEqual else invalid
  | 0xA => loadIndex
  | 0xB => jumpOffset
  | 0xC => random
  | 0xD => draw
  | 0xE => ofKeyByte (word % 0x100)
  | _ => ofDeviceByte (word % 0x100)

end Operation

namespace Instruction

def ofWord (word : Nat) : Instruction :=
  let operation := Operation.ofWord word
  let valid := operation != .invalid
  { operation
    word := word
    x := word / 0x100 % 0x10
    y := word / 0x10 % 0x10
    n := word % 0x10
    nn := word % 0x100
    nnn := word % 0x1000
    valid
    error :=
      if valid then none else some ("Unknown instruction word: " ++ HexFormat.word.render word) }

/-- Decodes the low 16 bits of a number. -/
def decode (word : Int) : Instruction :=
  ofWord (word % 0x10000).toNat

end Instruction

end Chip8
