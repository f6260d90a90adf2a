import Chip8.Proofs.Memory

/-!
# The state invariant

`Sound` bounds the program counter by what the instructions can make of it: the fetch stops at the
end of memory, so an address that is pushed or resumed is at most the size of memory, and the
farthest jump adds a byte to an address of three digits. While a key is awaited the state is not
halted and goes on behind the waiting instruction, or at the program's start if a program was loaded
meanwhile.
-/

namespace Chip8.State

/-- What decides where a state goes on. -/
def control (state : State) : Int × Int × List Int × Bool × Bool :=
  (state.pc, state.resumePc, state.stack, state.awaitingKey, state.halted)

structure Sound (capacity : Option Int) (state : State) : Prop where
  valid : state.Valid
  pc_le : state.pc ≤ 0x10FE
  resumePc_le : state.resumePc ≤ 0x1000
  stack_le : ∀ address ∈ state.stack, address ≤ 0x1000
  depth_le : ∀ depth ∈ capacity, (state.stack.length : Int) ≤ depth
  waiting : state.awaitingKey = true → state.halted = false ∧
    (state.resumePc = state.pc + 2 ∨ state.pc = 0x200 ∧ state.resumePc = 0x200)

variable {capacity : Option Int} {state other : State}

theorem Sound.of_control (hsound : state.Sound capacity) (hvalid : other.Valid)
    (hcontrol : other.control = state.control) : other.Sound capacity := by
  simp only [control, Prod.mk.injEq] at hcontrol
  obtain ⟨hpc, hresume, hstack, hwaiting, hhalted⟩ := hcontrol
  refine ⟨hvalid, ?_, ?_, ?_, ?_, ?_⟩
  · exact hpc ▸ hsound.pc_le
  · exact hresume ▸ hsound.resumePc_le
  · exact hstack ▸ hsound.stack_le
  · exact hstack ▸ hsound.depth_le
  · rw [hpc, hresume, hwaiting, hhalted]
    exact hsound.waiting

theorem Sound.jump (hsound : state.Sound capacity) (hnotWaiting : state.awaitingKey = false)
    {target : Int} (htarget : 0 ≤ target ∧ target ≤ 0x10FE) :
    (state.jump target).Sound capacity := by
  refine ⟨hsound.valid.jump (by omega), htarget.2, hsound.resumePc_le, hsound.stack_le,
    hsound.depth_le, ?_⟩
  intro hwaiting
  rw [State.jump, hnotWaiting] at hwaiting
  contradiction

theorem Sound.ret (hsound : state.Sound capacity) (hnotWaiting : state.awaitingKey = false)
    {address : Int} {stack : List Int} (hstack : state.stack = address :: stack) :
    State.Sound capacity { state with pc := address, stack } := by
  obtain ⟨hmemory, hsize, hregisters, hindex, -, hresume, haddresses, hrest⟩ := hsound.valid
  rw [hstack] at haddresses
  have hle := hsound.stack_le
  have hdepth := hsound.depth_le
  rw [hstack] at hle hdepth
  have haddress := hle address List.mem_cons_self
  refine ⟨⟨hmemory, hsize, hregisters, hindex, haddresses address List.mem_cons_self, hresume,
    fun other hother => haddresses other (List.mem_cons_of_mem _ hother), hrest⟩, ?_,
    hsound.resumePc_le, fun other hother => hle other (List.mem_cons_of_mem _ hother), ?_, ?_⟩
  · change address ≤ 0x10FE
    omega
  · intro depth hmem
    have hcons := hdepth depth hmem
    rw [List.length_cons] at hcons
    change (stack.length : Int) ≤ depth
    omega
  · intro hwaiting
    rw [hnotWaiting] at hwaiting
    contradiction

theorem Sound.call (hsound : state.Sound capacity) (hnotWaiting : state.awaitingKey = false)
    {target : Int} (htarget : 0 ≤ target ∧ target ≤ 0x10FE) (hpc : state.pc ≤ 0x1000)
    (hroom : ∀ depth ∈ capacity, (state.stack.length : Int) < depth) :
    State.Sound capacity { state with pc := target, stack := state.pc :: state.stack } := by
  obtain ⟨hmemory, hsize, hregisters, hindex, hrange, hresume, haddresses, hrest⟩ := hsound.valid
  refine ⟨⟨hmemory, hsize, hregisters, hindex, ⟨htarget.1, ?_⟩, hresume, ?_, hrest⟩, htarget.2,
    hsound.resumePc_le, ?_, ?_, ?_⟩
  · change target ≤ 0xFFFF
    omega
  · exact List.forall_mem_cons.mpr ⟨hrange, haddresses⟩
  · exact List.forall_mem_cons.mpr ⟨hpc, hsound.stack_le⟩
  · intro depth hmem
    have hfree := hroom depth hmem
    rw [List.length_cons]
    omega
  · intro hwaiting
    rw [hnotWaiting] at hwaiting
    contradiction

theorem Sound.awaitKey (hsound : state.Sound capacity) (hrunning : state.halted = false)
    (hpc : 2 ≤ state.pc ∧ state.pc ≤ 0x1000) {x : Nat} (hx : x < 16) :
    (state.awaitKey x).Sound capacity := by
  obtain ⟨hmemory, hsize, hregisters, hindex, hrange, -, haddresses, hdelay, hsound', -, hcycles⟩ :=
    hsound.valid
  refine ⟨⟨hmemory, hsize, hregisters, hindex, ?_, hrange, haddresses, hdelay, hsound', ?_,
    hcycles⟩, ?_, hpc.2, hsound.stack_le, hsound.depth_le, ?_⟩
  · change 0 ≤ state.pc - 2 ∧ state.pc - 2 ≤ 0xFFFF
    omega
  · change 0 ≤ (x : Int) ∧ (x : Int) < 16
    omega
  · change state.pc - 2 ≤ 0x10FE
    omega
  · intro
    refine ⟨hrunning, Or.inl ?_⟩
    change state.pc = state.pc - 2 + 2
    omega

theorem Sound.setV (hsound : state.Sound capacity) (x : Nat) (value : UInt8) :
    (state.setV x value).Sound capacity :=
  hsound.of_control (hsound.valid.setV x value) rfl

theorem Sound.countCycle (hsound : state.Sound capacity) :
    State.Sound capacity { state with cycleCount := state.cycleCount + 1 } := by
  obtain ⟨hmemory, hsize, hregisters, hindex, hpc, hresume, haddresses, hdelay, hsoundTimer, hkey,
    hcycles⟩ := hsound.valid
  refine hsound.of_control ⟨hmemory, hsize, hregisters, hindex, hpc, hresume, haddresses, hdelay,
    hsoundTimer, hkey, ?_⟩ rfl
  change 0 ≤ state.cycleCount + 1
  omega

theorem Valid.setTimers (hvalid : state.Valid) {delay sound : Int}
    (hdelay : 0 ≤ delay ∧ delay ≤ 0xFF) (hsound : 0 ≤ sound ∧ sound ≤ 0xFF) :
    State.Valid { state with delayTimer := delay, soundTimer := sound } := by
  obtain ⟨hmemory, hsize, hregisters, hindex, hpc, hresume, haddresses, -, -, hrest⟩ := hvalid
  exact ⟨hmemory, hsize, hregisters, hindex, hpc, hresume, haddresses, hdelay, hsound, hrest⟩

theorem Sound.tickDelay (hsound : state.Sound capacity) : state.tickDelay.Sound capacity := by
  have hdelay := hsound.valid.delay_range
  rw [State.tickDelay]
  split
  · exact hsound.of_control (hsound.valid.setTimers (by omega) hsound.valid.sound_range) rfl
  · exact hsound

theorem Sound.tickSound (hsound : state.Sound capacity) : state.tickSound.Sound capacity := by
  have hrange := hsound.valid.sound_range
  rw [State.tickSound]
  split
  · exact hsound.of_control (hsound.valid.setTimers hsound.valid.delay_range (by omega)) rfl
  · exact hsound

theorem Sound.halt (hsound : state.Sound capacity) (hnotWaiting : state.awaitingKey = false) :
    State.Sound capacity { state with halted := true } := by
  refine ⟨hsound.valid, hsound.pc_le, hsound.resumePc_le, hsound.stack_le, hsound.depth_le, ?_⟩
  intro hwaiting
  rw [hnotWaiting] at hwaiting
  contradiction

theorem Sound.goOn (hsound : state.Sound capacity) :
    State.Sound capacity { state with awaitingKey := false, pc := state.resumePc } := by
  have hle := hsound.resumePc_le
  have hresume := hsound.valid.resumePc_range
  refine ⟨hsound.valid.jump hresume, ?_, hle, hsound.stack_le, hsound.depth_le, ?_⟩
  · change state.resumePc ≤ 0x10FE
    omega
  · intro hwaiting
    contradiction

theorem size_memoryOfImage {image : List UInt8} (himage : image.length ≤ programCapacity) :
    (memoryOfImage image).size = memorySize := by
  have hfont : Font.glyphs.length = 80 := Font.length_glyphs
  rw [memoryOfImage, List.size_toArray]
  simp only [List.length_append, List.length_replicate]
  rw [programCapacity, memorySize, programStart] at *
  omega

theorem Sound.loadImage (hsound : state.Sound capacity) {image : List UInt8}
    (hload : state.loadImage image = .ok () other) : other.Sound capacity := by
  obtain ⟨-, hsize, hregisters, hindex, -, -, haddresses, hrest⟩ := hsound.valid
  rw [loadImage_eq] at hload
  split at hload
  · cases hload
  · rename_i himage
    cases hload
    have hstart : 0 ≤ (programStart : Int) ∧ (programStart : Int) ≤ 0xFFFF := by decide
    have hpc : (programStart : Int) ≤ 0x10FE := by decide
    have hresume : (programStart : Int) ≤ 0x1000 := by decide
    refine ⟨⟨size_memoryOfImage (by omega), hsize, hregisters, hindex, hstart, hstart,
      haddresses, hrest⟩, hpc, hresume, hsound.stack_le, hsound.depth_le, ?_⟩
    intro
    exact ⟨rfl, Or.inr ⟨rfl, rfl⟩⟩

theorem Sound.blank (hcapacity : ∀ depth ∈ capacity, 1 ≤ depth) :
    State.blank.Sound capacity := by
  have hsize : State.blank.memory.size = memorySize := Array.size_replicate
  refine ⟨⟨hsize, rfl, by decide, by decide, by decide, by decide, by decide, by decide, by decide,
    by decide, by decide⟩, by decide, by decide, by decide, ?_, by decide⟩
  intro depth hdepth
  have hpositive := hcapacity depth hdepth
  change ((0 : Nat) : Int) ≤ depth
  omega

theorem Sound.reset (hsound : state.Sound capacity) (hcapacity : ∀ depth ∈ capacity, 1 ≤ depth) :
    state.reset.Sound capacity := by
  -- A reset clears everything but the memory and the program counter.
  obtain ⟨hvalid, -, hresume, hstack, hdepth, -⟩ := Sound.blank hcapacity
  refine ⟨⟨hsound.valid.1, ?_⟩, hsound.pc_le, hresume, hstack, hdepth, ?_⟩
  · obtain ⟨-, hsize, hregisters, hindex, -, hrest⟩ := hvalid
    exact ⟨hsize, hregisters, hindex, hsound.valid.pc_range, hrest⟩
  · intro hwaiting
    have hnotWaiting : state.reset.awaitingKey = false := rfl
    rw [hnotWaiting] at hwaiting
    cases hwaiting

end Chip8.State
