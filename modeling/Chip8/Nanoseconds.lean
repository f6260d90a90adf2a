import Chip8.Failure

/-!
Seconds as whole nanoseconds.
-/

namespace Chip8

/-- The whole part of a floating point number. -/
def wholePart (value : Float) : Except Failure Int :=
  if value.isNaN then .error .notANumber
  else if value.isInf then .error .infiniteTime
  else
    let bits := value.toBits.toNat
    let fraction : Nat := bits % (1 <<< 52)
    let biased : Nat := (bits >>> 52) % (1 <<< 11)
    let mantissa : Nat := if biased = 0 then fraction else fraction + (1 <<< 52)
    let exponent := ((max biased 1 : Nat) : Int) - 1075
    let magnitude : Nat := (mantissa <<< exponent.toNat) >>> (-exponent).toNat
    .ok (if 1 <<< 63 ≤ bits then -(magnitude : Int) else magnitude)

/-- The nanoseconds of a number of seconds, rounded as their product is and then cut to a whole
number. -/
def nanoseconds (seconds : Float) : Except Failure Int :=
  wholePart (seconds * 1000000000)

end Chip8
