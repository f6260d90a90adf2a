import Chip8.Random.Source

/-!
The Mersenne twister MT19937 as a source of bytes.

It is seeded with the 32-bit words of a number's magnitude, the lowest first. A byte is the top nine
bits of an output if they are below 256, so that each byte is equally likely; larger values are
thrown away.
-/

namespace Chip8

structure Twister where
  words : Array UInt32
  /-- How many words have been handed out since the last twist. -/
  used : Nat

namespace Twister

def size : Nat := 624

def offset : Nat := 397

def word (words : Array UInt32) (place : Nat) : UInt32 :=
  words.getD place 0

/-- A word combined with its own high bits, which steps of the seeding multiply. -/
def scramble (value : UInt32) : UInt32 :=
  value ^^^ (value >>> 30)

/-- The state that a single word seeds. -/
def ofWord (seed : UInt32) : Array UInt32 :=
  (List.range (size - 1)).foldl (fun words place =>
    words.push (scramble (word words place) * 1812433253 + UInt32.ofNat (place + 1))) #[seed]

/-- Sets a word; the last one is copied to the front. -/
def setWord (words : Array UInt32) (place : Nat) (value : UInt32) : Array UInt32 :=
  let words := words.setIfInBounds place value
  if place = size - 1 then words.setIfInBounds 0 value else words

/-- The place that a step of the seeding changes: every place but the first, in turn. -/
def mixPlace (step : Nat) : Nat :=
  step % (size - 1) + 1

/-- What a step of the seeding combines: the word at its place and the word before. -/
def mixWord (words : Array UInt32) (place : Nat) (factor : UInt32) : UInt32 :=
  word words place ^^^ (scramble (word words (place - 1)) * factor)

def ofKey (key : Array UInt32) : Array UInt32 :=
  let rounds := max size key.size
  let mixed := (List.range rounds).foldl (fun words step =>
    let place := mixPlace step
    let turn := step % key.size
    setWord words place (mixWord words place 1664525 + word key turn + UInt32.ofNat turn))
    (ofWord 19650218)
  let spread := (List.range (size - 1)).foldl (fun words step =>
    let place := mixPlace (rounds + step)
    setWord words place (mixWord words place 1566083941 - UInt32.ofNat place)) mixed
  spread.setIfInBounds 0 0x80000000

/-- The words of a number, the lowest first, as many as `count`. -/
def digitsOf : Nat → Nat → List UInt32
  | 0, _ => []
  | count + 1, value => UInt32.ofNat value :: digitsOf count (value / 2 ^ 32)

/-- The key of a seed: the words of its magnitude, at least one. -/
def keyOfSeed (seed : Int) : Array UInt32 :=
  (digitsOf (seed.natAbs.log2 / 32 + 1) seed.natAbs).toArray

def ofSeed (seed : Int) : Twister :=
  { words := ofKey (keyOfSeed seed), used := size }

/-- Replaces all words by the next ones. -/
def twist (words : Array UInt32) : Array UInt32 :=
  (List.range size).foldl (fun words place =>
    let mixed :=
      (word words place &&& 0x80000000) ||| (word words ((place + 1) % size) &&& 0x7FFFFFFF)
    let step : UInt32 := if mixed % 2 = 1 then 0x9908B0DF else 0
    words.setIfInBounds place
      (word words ((place + offset) % size) ^^^ (mixed >>> 1) ^^^ step)) words

def temper (value : UInt32) : UInt32 :=
  let value := value ^^^ (value >>> 11)
  let value := value ^^^ ((value <<< 7) &&& 0x9D2C5680)
  let value := value ^^^ ((value <<< 15) &&& 0xEFC60000)
  value ^^^ (value >>> 18)

def nextWord (twister : Twister) : UInt32 × Twister :=
  if twister.used < size then
    (temper (word twister.words twister.used), { twister with used := twister.used + 1 })
  else
    let words := twist twister.words
    (temper (word words 0), { words, used := 1 })

/-- How often a value may be thrown away. A run of this length does not occur in practice. -/
def patience : Nat := 4096

/-- The next value below 256 among the top nine bits, or the low byte once patience has run out. -/
def drawByte : Nat → Twister → UInt8 × Twister
  | 0, twister =>
    let (value, twister) := twister.nextWord
    (value.toUInt8, twister)
  | patience + 1, twister =>
    let (value, twister) := twister.nextWord
    let top := value >>> 23
    if top < 256 then (top.toUInt8, twister) else drawByte patience twister

end Twister

instance : ByteSource Twister where
  next := Twister.drawByte Twister.patience

/-- A source fixed by a seed or by its bytes. -/
inductive RandomBytes where
  | seeded (twister : Twister)
  | listed (cycle : ByteCycle)

def RandomBytes.next : RandomBytes → UInt8 × RandomBytes
  | seeded twister =>
    let (byte, twister) := ByteSource.next twister
    (byte, seeded twister)
  | listed cycle =>
    let (byte, cycle) := ByteSource.next cycle
    (byte, listed cycle)

instance : ByteSource RandomBytes where
  next := RandomBytes.next

end Chip8
