import Chip8.Json.Basic
import Chip8.Text.Hexadecimal
import Chip8.Text.ShortestDecimal

/-!
Writing JSON text: every item and field on a line of its own, two blanks further in than what holds
it, and characters outside ASCII as escapes.
-/

namespace Chip8.Json

def unitEscape (unit : Nat) : List Char :=
  ['\\', 'u'] ++ (HexFormat.mk 4 false false).renderChars unit

def escapeChar (c : Char) : List Char :=
  let code := c.toNat
  if c == '\x22' || c == '\\' then ['\\', c]
  else if c == '\n' then ['\\', 'n']
  else if c == '\r' then ['\\', 'r']
  else if c == '\t' then ['\\', 't']
  else if c == '\x08' then ['\\', 'b']
  else if c == '\x0C' then ['\\', 'f']
  else if 0x20 ≤ code && code < 0x7F then [c]
  else if code < 0x10000 then unitEscape code
  else
    unitEscape (0xD800 + (code - 0x10000) / 0x400) ++ unitEscape (0xDC00 + (code - 0x10000) % 0x400)

def quote (text : String) : String :=
  String.ofList (['\x22'] ++ text.toList.flatMap escapeChar ++ ['\x22'])

def newLine (depth : Nat) : String :=
  "\n" ++ String.ofList (List.replicate (2 * depth) ' ')

/-- Lines between two brackets, or the brackets alone if there is none. -/
def enclose (opening closing : String) (depth : Nat) (lines : List String) : String :=
  if lines.isEmpty then opening ++ closing
  else
    opening ++ newLine (depth + 1) ++ ("," ++ newLine (depth + 1)).intercalate lines ++
      newLine depth ++ closing

/-- The name of a real number that has no digits, or its shortest decimal. -/
def realText (value : Float) : String :=
  if value.isNaN then "NaN"
  else if value.isInf then (if 0 < value then "Infinity" else "-Infinity")
  else Text.shortestDecimal value

mutual

def renderAt (depth : Nat) : Json → String
  | null => "null"
  | bool true => "true"
  | bool false => "false"
  | integer value => toString value
  | real value => realText value
  | string value => quote value
  | array items => enclose "[" "]" depth (renderItems (depth + 1) items)
  | object fields => enclose "\x7b" "\x7d" depth (renderFields (depth + 1) fields)

def renderItems (depth : Nat) : List Json → List String
  | [] => []
  | item :: items => renderAt depth item :: renderItems depth items

def renderFields (depth : Nat) : List (String × Json) → List String
  | [] => []
  | (name, value) :: fields =>
    (quote name ++ ": " ++ renderAt depth value) :: renderFields depth fields

end

def render (value : Json) : String :=
  renderAt 0 value

end Chip8.Json
