/-!
Hexadecimal text of whole numbers.

A format fixes the least width, whether `0x` stands in front and the case of the digits. The sign
and the mark count towards the width, zeros fill it up, and a longer number is never cut.
-/

namespace Chip8

structure HexFormat where
  width : Nat
  marked : Bool
  upper : Bool

namespace HexFormat

def lead (format : HexFormat) (value : Int) : List Char :=
  (if value < 0 then ['-'] else []) ++ (if format.marked then ['0', 'x'] else [])

def digits (format : HexFormat) (value : Int) : List Char :=
  let digits := Nat.toDigits 16 value.natAbs
  if format.upper then digits.map Char.toUpper else digits

def renderChars (format : HexFormat) (value : Int) : List Char :=
  let lead := format.lead value
  let digits := format.digits value
  lead ++ List.replicate (format.width - lead.length - digits.length) '0' ++ digits

def render (format : HexFormat) (value : Int) : String :=
  String.ofList (format.renderChars value)

/-- A register number or a key: `A`. -/
def digit : HexFormat := ⟨1, false, true⟩

/-- A byte: `0F`. -/
def byte : HexFormat := ⟨2, false, true⟩

/-- An address: `20A`. -/
def address : HexFormat := ⟨3, false, true⟩

/-- An instruction word: `60FF`. -/
def word : HexFormat := ⟨4, false, true⟩

/-- A byte operand: `0x0f`. -/
def markedByte : HexFormat := ⟨4, true, false⟩

/-- An address operand: `0x20a`. -/
def markedAddress : HexFormat := ⟨5, true, false⟩

/-- A full word with its mark: `0x60ff`. -/
def markedWord : HexFormat := ⟨6, true, false⟩

end HexFormat

end Chip8
