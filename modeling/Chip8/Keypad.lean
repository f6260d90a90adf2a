import Chip8.Failure
import Chip8.Text.DecimalDigit

/-!
The keypad: which of its sixteen keys are held, and a place for one key handed to a waiting program.
-/

namespace Chip8

def keyCount : Nat := 16

abbrev Key := Fin keyCount

/-- The key with a number, if there is one. -/
def Key.ofInt? (number : Int) : Option Key :=
  if h : 0 ≤ number ∧ number < keyCount then some ⟨number.toNat, by omega⟩ else none

structure Keypad where
  /-- Bit `n` is set while key `n` is held. -/
  held : BitVec keyCount
  /-- The key handed over last, until it is taken. -/
  pending : Option Key
  deriving DecidableEq

/-- The key that a character stands for: its value as a digit in base 16. -/
def keyOfChar? (c : Char) : Option Nat :=
  Text.digitValue? keyCount c

/-- As `keyOfChar?`, for a text of one character. -/
def keyOfText? (text : String) : Option Nat :=
  match text.toList with
  | [c] => keyOfChar? c
  | _ => none

namespace Keypad

def released : Keypad :=
  { held := 0, pending := none }

def mask (keypad : Keypad) : Nat :=
  keypad.held.toNat

/-- Holds exactly the keys whose bits are set among the low sixteen of a number. -/
def setMask (keypad : Keypad) (mask : Int) : Keypad :=
  { keypad with held := BitVec.ofInt keyCount mask }

/-- Whether a key is held; a number that is no key is not. -/
def isPressed (keypad : Keypad) (number : Int) : Bool :=
  match Key.ofInt? number with
  | some key => keypad.held.getLsbD key
  | none => false

/-- A change that may fail; what it had done to the keypad before failing stays done. -/
abbrev Change := EStateM Failure Keypad Unit

/-- Changes the keypad by a key, or refuses a number that is no key. -/
def withKey (number : Int) (change : Keypad → Key → Keypad) : Change := do
  match Key.ofInt? number with
  | some key => modify (change · key)
  | none => throw (.invalidKey number)

theorem withKey_eq (keypad : Keypad) (number : Int) (change : Keypad → Key → Keypad) :
    keypad.withKey number change =
      match Key.ofInt? number with
      | some key => .ok () (change keypad key)
      | none => .error (.invalidKey number) keypad := by
  rw [withKey]
  cases Key.ofInt? number <;> rfl

def press (number : Int) : Change :=
  withKey number fun keypad key =>
    { keypad with held := keypad.held ||| BitVec.twoPow keyCount key }

def release (number : Int) : Change :=
  withKey number fun keypad key =>
    { keypad with held := keypad.held &&& ~~~ BitVec.twoPow keyCount key }

def deliver (number : Int) : Change :=
  withKey number fun keypad key => { keypad with pending := some key }

def clearPending (keypad : Keypad) : Keypad :=
  { keypad with pending := none }

def takePending (keypad : Keypad) : Option Key × Keypad :=
  (keypad.pending, keypad.clearPending)

end Keypad

end Chip8
