import Chip8.Instruction.Decode
import Chip8.Instruction.Mnemonic

/-!
Listings: an image read word by word, each word with its address and the instruction it decodes to.
An odd last byte has no entry.
-/

namespace Chip8.Assembly

/-- The word made of two bytes, high byte first. -/
def wordOfBytes (high low : UInt8) : Nat :=
  0x100 * high.toNat + low.toNat

def disassemble (origin : Int) : List UInt8 → List (Int × Instruction)
  | high :: low :: rest =>
    (origin, Instruction.decode (wordOfBytes high low)) :: disassemble (origin + 2) rest
  | _ => []

def listingLine (entry : Int × Instruction) : String :=
  HexFormat.address.render entry.1 ++ ": " ++ entry.2.text

end Chip8.Assembly
