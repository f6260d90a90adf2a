/-!
The example programs of the playground.
-/

namespace Chip8.Playground

/-- The examples by their names, in the order in which they are offered. -/
def examples : List (String × List String) :=
  [ ("Add and clear",
      [ "6005    ; V0 = 5",
        "6105    ; V1 = 5",
        "8014    ; V0 += V1 -> 10, VF = 0",
        "00E0    ; clear screen" ]),
    ("BCD of 157",
      [ "6A9D    ; VA = 157",
        "A300    ; I = 0x300",
        "FA33    ; digits of VA at I..I+2",
        "F265    ; V0..V2 = 1, 5, 7",
        "6300    ; x = 0",
        "6400    ; y = 0",
        "F029    ; I = glyph(V0)",
        "D345    ; draw",
        "7305    ; x += 5",
        "F129    ; I = glyph(V1)",
        "D345",
        "7305",
        "F229    ; I = glyph(V2)",
        "D345",
        "121C    ; spin" ]),
    ("Wait for key",
      [ "00E0    ; clear screen",
        "F00A    ; V0 = next key pressed",
        "F029    ; I = glyph(V0)",
        "6300    ; x = 0",
        "6400    ; y = 0",
        "D345    ; draw the key's digit",
        "1200    ; start over" ]),
    ("Custom", []) ]

def exampleText (name : String) : String :=
  match examples.find? (·.1 == name) with
  | some (_, lines) => "\n".intercalate lines
  | none => ""

end Chip8.Playground
