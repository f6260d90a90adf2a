import Chip8.Keypad
import Mathlib.Data.Int.Bitwise
import Mathlib.Data.List.Induction

/-!
# Sequences of actions on the keypad

Seen from outside, a keypad is a set of sixteen keys beside a place for one key that is handed over.
Whether a key is held is decided by the last action that concerns it, and the key that is taken is
the one delivered last, unless it was taken or cleared since. Only a reset concerns both parts.
-/

namespace Chip8

/-- The last of the answers that a question has for the members of a list, if it has one for any. -/
def latest? {α β : Type} (question : α → Option β) (members : List α) : Option β :=
  (members.filterMap question).getLast?

theorem latest?_concat {α β : Type} (question : α → Option β) (members : List α) (member : α) :
    latest? question (members ++ [member]) = (question member).or (latest? question members) := by
  rw [latest?, List.filterMap_append, List.getLast?_append]
  cases hanswer : question member <;> simp [hanswer, latest?]

theorem Key.ofInt?_eq_none_iff {number : Int} :
    Key.ofInt? number = none ↔ ¬(0 ≤ number ∧ number < 16) := by
  rw [Key.ofInt?, dite_eq_right_iff]
  simp [keyCount]

theorem Key.ofInt?_eq_some_iff {number : Int} {key : Key} :
    Key.ofInt? number = some key ↔ number = (key : Nat) := by
  have hkey : (key : Nat) < keyCount := key.isLt
  rw [Key.ofInt?, Option.dite_none_right_eq_some]
  constructor
  · rintro ⟨hinside, hsome⟩
    rw [← Option.some.inj hsome, Int.toNat_of_nonneg hinside.1]
  · rintro rfl
    exact ⟨⟨Int.natCast_nonneg _, Int.ofNat_lt.mpr hkey⟩, rfl⟩

namespace Keypad

/-- What a host does to a keypad. -/
inductive Action where
  | setMask (mask : Int)
  | press (number : Int)
  | release (number : Int)
  | deliver (number : Int)
  | takePending
  | clearPending
  | reset
  deriving DecidableEq

/-- What an action says about a key: that it is held, that it is not, or nothing. -/
def Action.verdict? (key : Key) : Action → Option Bool
  | setMask mask => some (mask.testBit key)
  | press number => if number = (key : Nat) then some true else none
  | release number => if number = (key : Nat) then some false else none
  | reset => some false
  | _ => none

/-- What an action leaves to be taken, a key or none, unless it leaves what was there. -/
def Action.letter? : Action → Option (Option Key)
  | deliver number => (Key.ofInt? number).map some
  | takePending => some none
  | clearPending => some none
  | reset => some none
  | _ => none

/-- The answer to a change, which is no key, and the keypad that is left, whether or not the change
failed. -/
def settle : EStateM.Result Failure Keypad Unit → Except Failure (Option Key) × Keypad
  | .ok _ keypad => (.ok none, keypad)
  | .error failure keypad => (.error failure, keypad)

/-- The answer to an action, which is a key if one is taken, and the keypad that is left. -/
def perform (keypad : Keypad) : Action → Except Failure (Option Key) × Keypad
  | .setMask mask => (.ok none, keypad.setMask mask)
  | .press number => settle (keypad.press number)
  | .release number => settle (keypad.release number)
  | .deliver number => settle (keypad.deliver number)
  | .takePending => (.ok keypad.takePending.1, keypad.takePending.2)
  | .clearPending => (.ok none, keypad.clearPending)
  | .reset => (.ok none, released)

def afterActions (keypad : Keypad) (actions : List Action) : Keypad :=
  actions.foldl (fun keypad action => (keypad.perform action).2) keypad

variable (keypad : Keypad)

theorem afterActions_concat (actions : List Action) (action : Action) :
    keypad.afterActions (actions ++ [action]) =
      ((keypad.afterActions actions).perform action).2 := by
  simp [afterActions]

/-! ### One action -/

theorem settle_withKey (number : Int) (change : Keypad → Key → Keypad) :
    settle (keypad.withKey number change) =
      match Key.ofInt? number with
      | some key => (.ok none, change keypad key)
      | none => (.error (.invalidKey number), keypad) := by
  rw [withKey_eq]
  cases Key.ofInt? number <;> rfl

theorem testBit_ofInt {width place : Nat} (hplace : place < width) (number : Int) :
    (BitVec.ofInt width number).getLsbD place = number.testBit place := by
  cases number with
  | ofNat magnitude =>
      rw [Int.ofNat_eq_natCast, BitVec.ofInt_natCast, BitVec.getLsbD_ofNat]
      simp [hplace, Int.testBit]
  | negSucc magnitude =>
      rw [BitVec.ofInt_negSucc_eq_not_ofNat, BitVec.getLsbD_not, BitVec.getLsbD_ofNat]
      simp [hplace, Int.testBit]

theorem getLsbD_held_perform (action : Action) (key : Key) :
    (keypad.perform action).2.held.getLsbD key =
      (action.verdict? key).getD (keypad.held.getLsbD key) := by
  have hplace : (key : Nat) < keyCount := key.isLt
  have hval {other : Key} : (other : Nat) = key ↔ other = key := Fin.val_inj
  cases action with
  | setMask mask => exact testBit_ofInt hplace mask
  | press number =>
      rw [perform, press, settle_withKey]
      simp only [Action.verdict?, ← Key.ofInt?_eq_some_iff]
      cases hnumber : Key.ofInt? number with
      | none => rfl
      | some pressed =>
          rw [BitVec.getLsbD_or, BitVec.getLsbD_twoPow]
          by_cases hsame : pressed = key <;> simp [hsame, hval]
  | release number =>
      rw [perform, release, settle_withKey]
      simp only [Action.verdict?, ← Key.ofInt?_eq_some_iff]
      cases hnumber : Key.ofInt? number with
      | none => rfl
      | some released =>
          rw [BitVec.getLsbD_and, BitVec.getLsbD_not, BitVec.getLsbD_twoPow]
          by_cases hsame : released = key <;> simp [hsame, hval, hplace]
  | deliver number =>
      rw [perform, deliver, settle_withKey]
      cases Key.ofInt? number <;> rfl
  | takePending => rfl
  | clearPending => rfl
  | reset => simp [perform, released, Action.verdict?]

theorem pending_perform (action : Action) :
    (keypad.perform action).2.pending = action.letter?.getD keypad.pending := by
  cases action with
  | setMask mask => rfl
  | press number =>
      rw [perform, press, settle_withKey]
      cases Key.ofInt? number <;> rfl
  | release number =>
      rw [perform, release, settle_withKey]
      cases Key.ofInt? number <;> rfl
  | deliver number =>
      rw [perform, deliver, settle_withKey, Action.letter?]
      cases Key.ofInt? number <;> rfl
  | takePending => rfl
  | clearPending => rfl
  | reset => rfl

/-! ### Many actions -/

theorem getLsbD_held_afterActions (actions : List Action) (key : Key) :
    (released.afterActions actions).held.getLsbD key =
      (latest? (Action.verdict? key) actions).getD false := by
  induction actions using List.reverseRecOn with
  | nil => simp [afterActions, released, latest?]
  | append_singleton actions action ih =>
      rw [afterActions_concat, getLsbD_held_perform, ih, latest?_concat, Option.getD_or]

theorem pending_afterActions (actions : List Action) :
    (released.afterActions actions).pending = (latest? Action.letter? actions).join := by
  induction actions using List.reverseRecOn with
  | nil => rfl
  | append_singleton actions action ih =>
      rw [afterActions_concat, pending_perform, ih, latest?_concat]
      cases action.letter? <;> rfl

/-- A key is held as the last action that concerns it says, and the key that is taken is the one
that the last action on the place for it left there. A number that is no key is never held and is
refused without a change, and what is done to one part leaves the other as it is. -/
theorem latest_action_decides (actions : List Action) :
    let keypad := released.afterActions actions
    keypad.mask ≤ 0xFFFF ∧
    (∀ key : Key, keypad.isPressed (key : Nat) =
      (latest? (Action.verdict? key) actions).getD false) ∧
    (∀ number, ¬(0 ≤ number ∧ number < 16) → keypad.isPressed number = false) ∧
    (keypad.perform .takePending).1 = .ok (latest? Action.letter? actions).join ∧
    (∀ number, ∀ action ∈ [Action.press number, .release number, .deliver number],
      if 0 ≤ number ∧ number < 16 then (keypad.perform action).1 = .ok none
      else keypad.perform action = (.error (.invalidKey number), keypad)) ∧
    (∀ number, ∀ action ∈ [Action.setMask number, .press number, .release number],
      (keypad.perform action).2.pending = keypad.pending) ∧
    ∀ number, ∀ action ∈ [Action.deliver number, .takePending, .clearPending],
      (keypad.perform action).2.held = keypad.held := by
  intro keypad
  refine ⟨?_, ?_, ?_, ?_, ?_, ?_, ?_⟩
  · exact Nat.le_of_lt_succ keypad.held.isLt
  · intro key
    rw [isPressed, Key.ofInt?_eq_some_iff.mpr rfl]
    exact getLsbD_held_afterActions actions key
  · intro number houtside
    rw [isPressed, Key.ofInt?_eq_none_iff.mpr houtside]
  · exact congrArg Except.ok (pending_afterActions actions)
  · intro number action haction
    have hsettles (change : Keypad → Key → Keypad) :
        if 0 ≤ number ∧ number < 16 then
          (settle (keypad.withKey number change)).1 = .ok none
        else settle (keypad.withKey number change) = (.error (.invalidKey number), keypad) := by
      rw [settle_withKey]
      cases hnumber : Key.ofInt? number with
      | none => rw [if_neg (Key.ofInt?_eq_none_iff.mp hnumber)]
      | some key =>
          have hinside : 0 ≤ number ∧ number < 16 := by
            by_contra houtside
            simp [Key.ofInt?_eq_none_iff.mpr houtside] at hnumber
          rw [if_pos hinside]
    simp only [List.mem_cons, List.not_mem_nil, or_false] at haction
    obtain rfl | rfl | rfl := haction <;> exact hsettles _
  · intro number action haction
    rw [pending_perform]
    simp only [List.mem_cons, List.not_mem_nil, or_false] at haction
    obtain rfl | rfl | rfl := haction <;> rfl
  · intro number action haction
    apply BitVec.eq_of_getLsbD_eq
    intro place hplace
    rw [getLsbD_held_perform keypad action ⟨place, hplace⟩]
    simp only [List.mem_cons, List.not_mem_nil, or_false] at haction
    obtain rfl | rfl | rfl := haction <;> rfl

/-- A mask of all keys but the first, and a number that is refused twice. -/
def refusedActions : List Action :=
  [.setMask (-2), .press 16, .deliver 5, .deliver 16]

theorem latest_action_decides_refusedActions :
    let keypad := released.afterActions refusedActions
    keypad.isPressed 0 = false ∧ keypad.isPressed 1 = true ∧ keypad.isPressed 16 = false ∧
      (keypad.perform .takePending).1 = .ok (some ⟨5, by decide⟩) := by
  obtain ⟨-, hheld, houtside, htaken, -⟩ := latest_action_decides refusedActions
  have hfirst := hheld ⟨0, by decide⟩
  have hsecond := hheld ⟨1, by decide⟩
  exact ⟨hfirst.trans (by decide), hsecond.trans (by decide), houtside 16 (by decide), htaken⟩

end Keypad

end Chip8
