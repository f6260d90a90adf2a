import Chip8.Text.Hexadecimal
import Chip8.Text.Printable

/-!
Quoted text: between apostrophes, or between quotation marks if it holds apostrophes only, with
escapes for the mark itself, the backslash and characters that cannot be shown.
-/

namespace Chip8.Text

/-- The escape of a character by its code, in two, four or eight digits. -/
def codeEscape (code : Nat) : List Char :=
  if code < 0x100 then ['\\', 'x'] ++ (HexFormat.mk 2 false false).renderChars code
  else if code < 0x10000 then ['\\', 'u'] ++ (HexFormat.mk 4 false false).renderChars code
  else ['\\', 'U'] ++ (HexFormat.mk 8 false false).renderChars code

def quotedChar (mark c : Char) : List Char :=
  if c == mark || c == '\\' then ['\\', c]
  else if c == '\n' then ['\\', 'n']
  else if c == '\r' then ['\\', 'r']
  else if c == '\t' then ['\\', 't']
  else if isPrintable c then [c]
  else codeEscape c.toNat

def quoted (text : String) : String :=
  let chars := text.toList
  let mark := if chars.contains '\x27' && !chars.contains '\x22' then '\x22' else '\x27'
  String.ofList ([mark] ++ chars.flatMap (quotedChar mark) ++ [mark])

end Chip8.Text
