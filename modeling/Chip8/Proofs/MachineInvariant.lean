import Chip8.Proofs.Cycle
import Chip8.Proofs.HostCalls
import Chip8.Proofs.StateInvariant

/-!
# The machine invariant

Every transition keeps the state invariant and the size of the display, and so does every call of
the host, whether or not it fails.
-/

namespace Chip8

/-- The operands are in the ranges that the digits of a word give them. -/
def Effect.InRange : Effect → Prop
  | jump target => target ≤ 0x10FE
  | call target => target ≤ 0xFFF
  | point index => index ≤ 0xFFFF
  | awaitKey x => x < 16
  | _ => True

theorem Effect.ofDigits_inRange (state : State) (keypad : Keypad) {a x y n : Nat} (hx : x < 16)
    (hy : y < 16) (hn : n < 16) : (ofDigits state keypad a x y n).InRange := by
  have hfirst := (state.v 0).toNat_lt
  have hglyph := (state.v x).toNat_lt
  unfold ofDigits
  split <;> simp only [InRange, address] <;> omega

namespace Machine

variable {source : Type} {config : Config} {machine : Machine source}

structure Sound (config : Config) (machine : Machine source) : Prop where
  config_eq : machine.config = config
  config_valid : config.Valid
  state : machine.state.Sound config.maxStackDepth
  display : machine.display.HasSize 64 32

theorem Sound.congr (hsound : Sound config machine) {other : Machine source}
    (hconfig : other.config = machine.config) (hstate : other.state.Sound config.maxStackDepth)
    (hdisplay : other.display = machine.display) : Sound config other :=
  ⟨hconfig.trans hsound.config_eq, hsound.config_valid, hstate, hdisplay ▸ hsound.display⟩

theorem Sound.apply [ByteSource source] (hsound : Sound config machine)
    (hnotWaiting : machine.state.awaitingKey = false) (hrunning : machine.state.halted = false)
    (hpc : 2 ≤ machine.state.pc ∧ machine.state.pc ≤ 0x1000)
    {effect : Effect} (hrange : effect.InRange)
    {after : Machine source} (happly : effect.apply machine = .ok after) : Sound config after := by
  have hstate := hsound.state
  have hvalid := hstate.valid
  cases effect with
  | clear =>
      cases happly
      exact ⟨hsound.config_eq, hsound.config_valid, hstate, Display.hasSize_blank⟩
  | ret =>
      simp only [Effect.apply] at happly
      split at happly
      · cases happly
      · rename_i address stack hstack
        cases happly
        exact hsound.congr rfl (hstate.ret hnotWaiting hstack) rfl
  | jump target =>
      cases happly
      have htarget : target ≤ 0x10FE := hrange
      exact hsound.congr rfl (hstate.jump hnotWaiting ⟨by omega, by omega⟩) rfl
  | call target =>
      have htarget : target ≤ 0xFFF := hrange
      simp only [Effect.apply] at happly
      split at happly
      · cases happly
      · rename_i hroom
        cases happly
        refine hsound.congr rfl (hstate.call hnotWaiting ⟨by omega, by omega⟩ hpc.2 ?_) rfl
        intro depth hdepth
        rw [hsound.config_eq, hdepth] at hroom
        simpa using hroom
  | skip condition =>
      cases happly
      refine hsound.congr rfl (hstate.jump hnotWaiting ?_) rfl
      split <;> omega
  | assign x value =>
      cases happly
      exact hsound.congr rfl (hstate.of_control (hvalid.setV _ _) rfl) rfl
  | assignWithFlag x flag value =>
      cases happly
      exact hsound.congr rfl (hstate.of_control ((hvalid.raise _).setV _ _) rfl) rfl
  | random x mask =>
      cases happly
      exact hsound.congr rfl (hstate.of_control (hvalid.setV _ _) rfl) rfl
  | point index =>
      cases happly
      have hindex : index ≤ 0xFFFF := hrange
      exact hsound.congr rfl (hstate.of_control (hvalid.loadIndex ⟨by omega, by omega⟩) rfl) rfl
  | write data =>
      simp only [Effect.apply] at happly
      split at happly
      · cases happly
      · cases happly
        exact hsound.congr rfl (hstate.of_control (hvalid.putBytes _ _) rfl) rfl
  | load x =>
      simp only [Effect.apply] at happly
      split at happly
      · cases happly
      · cases happly
        exact hsound.congr rfl (hstate.of_control (hvalid.setVs _) rfl) rfl
  | draw column row rows =>
      simp only [Effect.apply] at happly
      split at happly
      · cases happly
      · cases happly
        exact ⟨hsound.config_eq, hsound.config_valid, hstate.of_control (hvalid.raise _) rfl,
          hsound.display.blit _ _ _⟩
  | delay value =>
      cases happly
      have hvalue := value.toNat_lt
      have hdelay : 0 ≤ (value.toNat : Int) ∧ (value.toNat : Int) ≤ 0xFF := by omega
      exact hsound.congr rfl
        (hstate.of_control (hvalid.setTimers hdelay hvalid.sound_range) rfl) rfl
  | sound value =>
      cases happly
      have hvalue := value.toNat_lt
      have hsoundRange : 0 ≤ (value.toNat : Int) ∧ (value.toNat : Int) ≤ 0xFF := by omega
      exact hsound.congr rfl
        (hstate.of_control (hvalid.setTimers hvalid.delay_range hsoundRange) rfl) rfl
  | awaitKey x =>
      have hx : x < 16 := hrange
      cases happly
      rw [note_eq]
      exact hsound.congr rfl (hstate.awaitKey hrunning hpc hx) rfl
  | unsupported => cases happly

theorem Sound.advancePc (hsound : Sound config machine)
    (hnotWaiting : machine.state.awaitingKey = false) (hpc : machine.state.pc ≤ 4094) :
    Sound config machine.advancePc := by
  have hrange := hsound.state.valid.pc_range
  exact hsound.congr rfl (hsound.state.jump hnotWaiting ⟨by omega, by omega⟩) rfl

theorem Sound.tickDelay (hsound : Sound config machine) : Sound config machine.tickDelay :=
  hsound.congr rfl hsound.state.tickDelay rfl

theorem Sound.tickSound (hsound : Sound config machine) : Sound config machine.tickSound := by
  rw [tickSound_eq]
  exact hsound.congr rfl hsound.state.tickSound rfl

theorem Sound.create (hvalid : config.Valid) (random : source) :
    Sound config (Machine.create config random) := by
  have hblank := State.Sound.blank hvalid.2.2
  exact ⟨rfl, hvalid, hblank.loadImage State.loadImage_nil, Display.hasSize_blank⟩

theorem Sound.built (hvalid : config.Valid) (random : source) (noteLevel : Level)
    (listeners : List String) : Sound config (built config random noteLevel listeners) := by
  have hcreate := Sound.create hvalid random
  exact hcreate.congr rfl hcreate.state rfl

theorem Sound.reset (hsound : Sound config machine) : Sound config machine.reset := by
  rw [Machine.reset, note_eq]
  exact ⟨hsound.config_eq, hsound.config_valid, hsound.state.reset hsound.config_valid.2.2,
    hsound.display.clear⟩

theorem keeps_sound_loadProgram (image : List UInt8) :
    Keeps (Sound config) (loadProgram image : Action source Unit) := by
  intro machine hsound
  have hprepared :
      Sound config (if machine.config.resetOnLoad then machine.reset else machine) := by
    split
    · exact hsound.reset
    · exact hsound
  rw [loadProgram_eq]
  generalize (if machine.config.resetOnLoad then machine.reset else machine) = prepared
    at hprepared ⊢
  dsimp only
  split
  case isTrue hlarge => exact hprepared
  case isFalse hfits =>
    have hload := (prepared.state.loadImage_eq image).trans (if_neg hfits)
    rw [left, note_eq]
    exact hprepared.congr rfl (hprepared.state.loadImage hload) rfl

theorem keeps_sound_deliverKey (key : Int) :
    Keeps (Sound config) (deliverKey key : Action source Unit) := by
  refine Keeps.bind (Keeps.updateKeypad ?_) fun _ => Keeps.modify ?_
  · intro machine keypad hsound
    exact hsound.congr rfl hsound.state rfl
  · intro machine hsound
    rw [note_eq]
    exact hsound.congr rfl hsound.state rfl

variable [ByteSource source]

theorem Sound.transition (hsound : Sound config machine)
    (hrunning : machine.state.halted = false) (hnotWaiting : machine.state.awaitingKey = false)
    (hpc : machine.state.pc ≤ 4094) {after : Machine source}
    (htransition : machine.transition = .ok after) : Sound config after := by
  have hrange := hsound.state.valid.pc_range
  have hword := machine.state.word_lt
  have hadvanced := hsound.advancePc hnotWaiting hpc
  have hbounds : 2 ≤ machine.advancePc.state.pc ∧ machine.advancePc.state.pc ≤ 0x1000 := by
    change 2 ≤ machine.state.pc + 2 ∧ machine.state.pc + 2 ≤ 0x1000
    omega
  -- The operands come from single digits, which is all that the bounds of the targets need.
  have hinRange : (Effect.ofWord machine.state machine.keypad machine.state.word).InRange :=
    Effect.ofDigits_inRange _ _ (Nat.mod_lt _ (by decide)) (Nat.mod_lt _ (by decide))
      (Nat.mod_lt _ (by decide))
  obtain ⟨carried, happly, rfl⟩ := exists_apply_of_transition htransition
  have hcarried := hadvanced.apply hnotWaiting hrunning hbounds hinRange happly
  exact hcarried.congr rfl hcarried.state.countCycle rfl

/-- A step keeps the invariant, whatever comes of it. -/
theorem Sound.step (hsound : Sound config machine) : Sound config (left (step machine)) := by
  have hresult := stepResult_step hsound.state.valid hsound.display
  generalize Machine.step machine = result at hresult
  cases hresult with
  | halted hhalted => exact hsound
  | waiting hrunning hwaiting hpending => exact hsound
  | key hrunning hwaiting key hpending text =>
      rw [left, note_eq]
      exact hsound.congr rfl (hsound.state.setV _ _).goOn rfl
  | outside hrunning hnotWaiting hpc =>
      rw [left, failCycle_eq]
      exact hsound.congr rfl (hsound.state.halt hnotWaiting) rfl
  | carriedOut hrunning hnotWaiting hpc after htransition =>
      have hafter := hsound.transition hrunning hnotWaiting hpc htransition
      rw [left, finishCycle_eq]
      exact hafter.congr rfl hafter.state rfl
  | refused hrunning hnotWaiting hpc refusal htransition =>
      have hadvanced := hsound.advancePc hnotWaiting hpc
      rw [left, failCycle_eq]
      exact hadvanced.congr rfl (hadvanced.state.halt hnotWaiting) rfl

/-- Every call of the host keeps the invariant. -/
theorem keeps_sound_action (call : HostCall) :
    Keeps (Sound config) (call.action : Action source Unit) := by
  have hstep : Keeps (Sound config) (Machine.step : Action source (Option Instruction)) :=
    fun _ => Sound.step
  cases call with
  | load image => exact keeps_sound_loadProgram image
  | loadSource text =>
      intro machine hsound
      simp only [HostCall.action, loadSource]
      split
      · exact keeps_sound_loadProgram _ machine hsound
      · exact hsound
  | reset => exact Keeps.modify fun _ => Sound.reset
  | step => exact hstep.map _
  | run limit => exact Keeps.run hstep limit
  | setHeldKeys mask =>
      exact Keeps.modify fun machine hsound => hsound.congr rfl hsound.state rfl
  | pressKey key =>
      refine Keeps.bind (Keeps.updateKeypad ?_) fun _ =>
        Keeps.bind (fun _ hsound => hsound) fun machine => ?_
      · intro machine keypad hsound
        exact hsound.congr rfl hsound.state rfl
      · split
        · exact keeps_sound_deliverKey key
        · exact Keeps.pure ()
  | releaseKey key =>
      refine Keeps.updateKeypad ?_
      intro machine keypad hsound
      exact hsound.congr rfl hsound.state rfl
  | deliverKey key => exact keeps_sound_deliverKey key
  | tickDelay => exact Keeps.modify fun _ => Sound.tickDelay
  | tickSound => exact Keeps.modify fun _ => Sound.tickSound
  | tickTimers => exact Keeps.modify fun _ hsound => hsound.tickDelay.tickSound
  | addListener listener =>
      exact Keeps.modify fun machine hsound => hsound.congr rfl hsound.state rfl

theorem Sound.afterCalls (hsound : Sound config machine) (calls : List HostCall) :
    Sound config (machine.afterCalls calls) :=
  Keeps.afterCalls (fun call _ => keeps_sound_action call) hsound

/-- The invariant holds of every machine that a host comes to. -/
theorem Reachable.sound (hreachable : Reachable config machine) : Sound config machine := by
  induction hreachable with
  | create hvalid random noteLevel =>
      have hcreate := Sound.create hvalid random
      exact hcreate.congr rfl hcreate.state rfl
  | call hreachable call ih => exact keeps_sound_action call _ ih

/-- The ranges of everything that the invariant speaks of, with the pixels, the held keys and the
key handed over. -/
theorem Reachable.inBounds (hreachable : Reachable config machine) :
    machine.state.Valid ∧ machine.state.pc ≤ 0x10FE ∧ machine.state.resumePc ≤ 0x1000 ∧
      (∀ address ∈ machine.state.stack, address ≤ 0x1000) ∧
      (∀ depth ∈ config.maxStackDepth, (machine.state.stack.length : Int) ≤ depth) ∧
      (machine.state.awaitingKey = true → machine.state.halted = false ∧
        (machine.state.resumePc = machine.state.pc + 2 ∨
          machine.state.pc = 0x200 ∧ machine.state.resumePc = 0x200)) ∧
      machine.display.frame.pixels.size = 2048 ∧
      (∀ pixel ∈ machine.display.frame.pixels, pixel = 0 ∨ pixel = 1) ∧
      machine.keypad.mask ≤ 0xFFFF ∧ ∀ key ∈ machine.keypad.pending, key.val ≤ 15 := by
  have hsound := hreachable.sound
  have hstate := hsound.state
  refine ⟨hstate.valid, hstate.pc_le, hstate.resumePc_le, hstate.stack_le, hstate.depth_le,
    hstate.waiting, ?_, ?_, ?_, ?_⟩
  · rw [Display.frame, Array.size_map]
    exact hsound.display.size_eq
  · intro pixel hpixel
    obtain ⟨cell, -, rfl⟩ := Array.mem_map.mp hpixel
    cases cell
    · exact Or.inl rfl
    · exact Or.inr rfl
  · have hheld : machine.keypad.held.toNat < 2 ^ 16 := machine.keypad.held.isLt
    exact Nat.le_of_lt_succ hheld
  · intro key hkey
    have hlt : key.val < 16 := key.isLt
    omega

/-- A machine that has drawn a glyph and waits for a key in a subroutine, with every key held and
one handed over, after a load that failed and keys that do not exist. -/
def boundedWaiting : Machine ByteCycle :=
  (Machine.create { maxStackDepth := some 1 } (ByteCycle.mk #[0xFF] 0)).afterCalls
    [.load [0xD0, 0x05, 0x22, 0x04, 0xF3, 0x0A], .step, .step, .step,
      .load (List.replicate 4096 0), .pressKey 16, .deliverKey (-1), .setHeldKeys (-1),
      .deliverKey 15]

theorem inBounds_waiting :
    let machine := boundedWaiting
    (machine.state.stack = [0x204] ∧ machine.state.awaitingKey = true ∧
      machine.display.lit 0 0 = .ok true ∧ machine.keypad.mask = 0xFFFF ∧
      machine.keypad.pending = Key.ofInt? 15) ∧
    machine.state.Valid ∧ machine.state.pc ≤ 0x10FE ∧ machine.state.resumePc ≤ 0x1000 ∧
      (∀ address ∈ machine.state.stack, address ≤ 0x1000) ∧
      (machine.state.stack.length : Int) ≤ 1 ∧ machine.state.halted = false ∧
      machine.state.resumePc = machine.state.pc + 2 ∧
      machine.display.frame.pixels.size = 2048 ∧
      (∀ pixel ∈ machine.display.frame.pixels, pixel = 0 ∨ pixel = 1) ∧
      machine.keypad.mask ≤ 0xFFFF ∧ ∀ key ∈ machine.keypad.pending, key.val ≤ 15 := by
  intro machine
  have hexercised : (machine.state.stack = [0x204] ∧ machine.state.awaitingKey = true ∧
      machine.display.lit 0 0 = .ok true ∧ machine.keypad.mask = 0xFFFF ∧
      machine.keypad.pending = Key.ofInt? 15) ∧ machine.state.pc ≠ 0x200 := by
    decide +kernel
  have hreachable : Reachable { maxStackDepth := some 1 } machine :=
    (Reachable.create (by decide) (ByteCycle.mk #[0xFF] 0) .warning).afterCalls _
  obtain ⟨hvalid, hpc, hresume, hstack, hdepth, hwaiting, hframe⟩ := hreachable.inBounds
  obtain ⟨hrunning, hbehind⟩ := hwaiting hexercised.1.2.1
  have hresumes := hbehind.resolve_right fun hfirst => hexercised.2 hfirst.1
  exact ⟨hexercised.1, hvalid, hpc, hresume, hstack, hdepth 1 rfl, hrunning, hresumes, hframe⟩

end Machine

end Chip8
