/-!
Sources of random bytes, and the source that hands out a given list of bytes over and over.
-/

namespace Chip8

class ByteSource (source : Type) where
  next : source → UInt8 × source

namespace ByteSource

variable {source : Type} [ByteSource source]

def take : Nat → source → List UInt8 × source
  | 0, bytes => ([], bytes)
  | count + 1, bytes =>
    let (byte, bytes) := next bytes
    let (rest, bytes) := take count bytes
    (byte :: rest, bytes)

end ByteSource

structure ByteCycle where
  bytes : Array UInt8
  position : Nat

def ByteCycle.next (cycle : ByteCycle) : UInt8 × ByteCycle :=
  (cycle.bytes.getD (cycle.position % cycle.bytes.size) 0,
    { cycle with position := cycle.position + 1 })

instance : ByteSource ByteCycle where
  next := ByteCycle.next

end Chip8
