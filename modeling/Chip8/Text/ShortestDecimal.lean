/-!
The shortest decimal that reads back as a given binary floating point number.

A number `m * 2 ^ q` stands for every real nearer to it than to its neighbours. Of the multiples of
powers of ten in that interval one of the greatest power is taken, the nearer one if there are two.
-/

namespace Chip8.Text

/-- A positive number as a fraction, with the ends of the interval that it stands for. -/
structure RoundingInterval where
  low : Nat
  value : Nat
  high : Nat
  denominator : Nat
  /-- Whether the two ends round to the number, too. -/
  closed : Bool

/-- The interval of a finite number other than zero, its sign left out. -/
def RoundingInterval.ofFloat (value : Float) : RoundingInterval :=
  let bits := value.toBits.toNat
  let fraction := bits % (1 <<< 52)
  let biased := (bits >>> 52) % (1 <<< 11)
  let mantissa := if biased = 0 then fraction else fraction + (1 <<< 52)
  let exponent := ((max biased 1 : Nat) : Int) - 1077
  let below := if fraction = 0 ∧ 1 < biased then 1 else 2
  let scale := 1 <<< exponent.toNat
  { low := (4 * mantissa - below) * scale
    value := 4 * mantissa * scale
    high := (4 * mantissa + 2) * scale
    denominator := 1 <<< (-exponent).toNat
    closed := mantissa % 2 = 0 }

namespace RoundingInterval

def contains (interval : RoundingInterval) (scale unit count : Nat) : Bool :=
  let point := count * unit
  let low := interval.low * scale
  let high := interval.high * scale
  if interval.closed then low ≤ point && point ≤ high else low < point && point < high

/-- The multiple of `10 ^ power` in the interval that is nearest to the number. -/
def multiple? (interval : RoundingInterval) (power : Int) : Option Nat :=
  let scale := Nat.pow 10 (-power).toNat
  let unit := Nat.pow 10 power.toNat * interval.denominator
  let below := interval.value * scale / unit
  let inside := interval.contains scale unit
  let nearerBelow := 2 * (interval.value * scale - below * unit) ≤ unit
  if inside below && (nearerBelow || !inside (below + 1)) then some below
  else if inside (below + 1) then some (below + 1)
  else none

/-- The first hit among `count` powers of ten, from `power` downwards. -/
def search (interval : RoundingInterval) : Nat → Int → Nat × Int
  | 0, power => (0, power)
  | count + 1, power =>
    match interval.multiple? power with
    | some multiple => (multiple, power)
    | none => interval.search count (power - 1)

end RoundingInterval

/-- The digits of the shortest decimal, and the place of its point counted from the first digit. -/
def shortestDigits (value : Float) : List Char × Int :=
  let (multiple, power) := (RoundingInterval.ofFloat value).search 660 310
  let digits := Nat.toDigits 10 multiple
  (digits, digits.length + power)

/-- How many digits a number may have before its point, and zeros after it, to be written without an
exponent. -/
def positionalDigits : Int := 16

def positionalZeros : Int := 3

def exponentText (exponent : Int) : List Char :=
  let digits := Nat.toDigits 10 exponent.natAbs
  ['e', if exponent < 0 then '-' else '+'] ++ List.replicate (2 - digits.length) '0' ++ digits

/-- Digits with their point: at least one digit on either side, or an exponent. -/
def placePoint (digits : List Char) (point : Int) : List Char :=
  if point < -positionalZeros ∨ positionalDigits < point then
    let fraction := digits.drop 1
    digits.take 1 ++ (if fraction.isEmpty then [] else '.' :: fraction) ++ exponentText (point - 1)
  else if point ≤ 0 then ['0', '.'] ++ List.replicate (-point).toNat '0' ++ digits
  else
    let whole := digits.take point.toNat
    let fraction := digits.drop point.toNat
    whole ++ List.replicate (point.toNat - whole.length) '0' ++ ['.'] ++
      (if fraction.isEmpty then ['0'] else fraction)

def shortestDecimal (value : Float) : String :=
  let negative := 1 <<< 63 ≤ value.toBits.toNat
  let magnitude :=
    if value == 0 then ['0', '.', '0']
    else
      let (digits, point) := shortestDigits value
      placePoint digits point
  String.ofList (if negative then '-' :: magnitude else magnitude)

end Chip8.Text
