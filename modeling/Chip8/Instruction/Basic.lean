/-!
Instructions: an operation of the instruction set together with the operands read from its word.

For a word with the hexadecimal digits `FXYN`, `x` and `y` are register numbers and `n`, `nn` and
`nnn` are the constants made of its last one, two and three digits.
-/

namespace Chip8

/-- One row of the instruction table each; `invalid` stands for every word outside the table. -/
inductive Operation where
  | clear
  | ret
  | jump
  | call
  | skipIfByte
  | skipUnlessByte
  | skipIfEqual
  | loadByte
  | addByte
  | copy
  | bitOr
  | bitAnd
  | bitXor
  | add
  | subtract
  | shiftRight
  | subtractFrom
  | shiftLeft
  | skipUnlessEqual
  | loadIndex
  | jumpOffset
  | random
  | draw
  | skipIfPressed
  | skipUnlessPressed
  | readDelay
  | awaitKey
  | setDelay
  | setSound
  | addIndex
  | glyph
  | decimal
  | store
  | load
  | invalid
  deriving DecidableEq, Repr

namespace Operation

def all : List Operation :=
  [clear, ret, jump, call, skipIfByte, skipUnlessByte, skipIfEqual, loadByte, addByte, copy, bitOr,
    bitAnd, bitXor, add, subtract, shiftRight, subtractFrom, shiftLeft, skipUnlessEqual, loadIndex,
    jumpOffset, random, draw, skipIfPressed, skipUnlessPressed, readDelay, awaitKey, setDelay,
    setSound, addIndex, glyph, decimal, store, load, invalid]

theorem mem_all (operation : Operation) : operation ∈ all := by
  cases operation <;> decide

/-- The name under which an operation is listed. -/
def key : Operation → String
  | clear => "OP_CLS"
  | ret => "OP_RET"
  | jump => "OP_JP"
  | call => "OP_CALL"
  | skipIfByte => "OP_SE_IMM"
  | skipUnlessByte => "OP_SNE_IMM"
  | skipIfEqual => "OP_SE_REG"
  | loadByte => "OP_LD_IMM"
  | addByte => "OP_ADD_IMM"
  | copy => "OP_LD_REG"
  | bitOr => "OP_OR"
  | bitAnd => "OP_AND"
  | bitXor => "OP_XOR"
  | add => "OP_ADD_REG"
  | subtract => "OP_SUB"
  | shiftRight => "OP_SHR"
  | subtractFrom => "OP_SUBN"
  | shiftLeft => "OP_SHL"
  | skipUnlessEqual => "OP_SNE_REG"
  | loadIndex => "OP_LD_I"
  | jumpOffset => "OP_JP_V0"
  | random => "OP_RND"
  | draw => "OP_DRW"
  | skipIfPressed => "OP_SKP"
  | skipUnlessPressed => "OP_SKNP"
  | readDelay => "OP_LD_VX_DT"
  | awaitKey => "OP_LD_KEY"
  | setDelay => "OP_LD_DT"
  | setSound => "OP_LD_ST"
  | addIndex => "OP_ADD_I"
  | glyph => "OP_LD_FONT"
  | decimal => "OP_BCD"
  | store => "OP_STORE"
  | load => "OP_LOAD"
  | invalid => "OP_INVALID"

def ofKey? (key : String) : Option Operation :=
  all.find? (·.key == key)

end Operation

structure Instruction where
  operation : Operation
  word : Int
  x : Int
  y : Int
  n : Int
  nn : Int
  nnn : Int
  valid : Bool
  error : Option String
  deriving DecidableEq, Repr

end Chip8
