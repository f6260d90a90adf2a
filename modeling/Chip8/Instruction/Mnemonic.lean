import Chip8.Instruction.Basic
import Chip8.Text.Hexadecimal

/-!
The assembly text of an instruction, and its line in a listing: the word followed by that text.
-/

namespace Chip8.Instruction

def register (number : Int) : String :=
  "V" ++ HexFormat.digit.render number

def mnemonic (instruction : Instruction) : String :=
  let x := register instruction.x
  let y := register instruction.y
  let byte := HexFormat.markedByte.render instruction.nn
  let address := HexFormat.markedAddress.render instruction.nnn
  match instruction.operation with
  | .clear => "CLS"
  | .ret => "RET"
  | .jump => "JP " ++ address
  | .call => "CALL " ++ address
  | .skipIfByte => "SE " ++ x ++ ", " ++ byte
  | .skipUnlessByte => "SNE " ++ x ++ ", " ++ byte
  | .skipIfEqual => "SE " ++ x ++ ", " ++ y
  | .loadByte => "LD " ++ x ++ ", " ++ byte
  | .addByte => "ADD " ++ x ++ ", " ++ byte
  | .copy => "LD " ++ x ++ ", " ++ y
  | .bitOr => "OR " ++ x ++ ", " ++ y
  | .bitAnd => "AND " ++ x ++ ", " ++ y
  | .bitXor => "XOR " ++ x ++ ", " ++ y
  | .add => "ADD " ++ x ++ ", " ++ y
  | .subtract => "SUB " ++ x ++ ", " ++ y
  | .shiftRight => "SHR " ++ x
  | .subtractFrom => "SUBN " ++ x ++ ", " ++ y
  | .shiftLeft => "SHL " ++ x
  | .skipUnlessEqual => "SNE " ++ x ++ ", " ++ y
  | .loadIndex => "LD I, " ++ address
  | .jumpOffset => "JP V0, " ++ address
  | .random => "RND " ++ x ++ ", " ++ byte
  | .draw => "DRW " ++ x ++ ", " ++ y ++ ", " ++ toString instruction.n
  | .skipIfPressed => "SKP " ++ x
  | .skipUnlessPressed => "SKNP " ++ x
  | .readDelay => "LD " ++ x ++ ", DT"
  | .awaitKey => "LD " ++ x ++ ", K"
  | .setDelay => "LD DT, " ++ x
  | .setSound => "LD ST, " ++ x
  | .addIndex => "ADD I, " ++ x
  | .glyph => "LD F, " ++ x
  | .decimal => "LD B, " ++ x
  | .store => "LD [I], " ++ x
  | .load => "LD " ++ x ++ ", [I]"
  | .invalid => "DW " ++ HexFormat.markedWord.render instruction.word

def text (instruction : Instruction) : String :=
  HexFormat.word.render instruction.word ++ "  " ++ instruction.mnemonic

end Chip8.Instruction
