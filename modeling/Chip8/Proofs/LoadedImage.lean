import Chip8.Proofs.Faults
import Chip8.Proofs.Lifecycle
import Chip8.Proofs.ListingRoundTrip

/-!
# Loaded images

A load fills all of memory: the font, zeros up to the program, the image and zeros behind it. The
entries of the image's listing are then what is fetched and executed at their addresses, until the
program overwrites itself.
-/

namespace Chip8

open Assembly (disassemble imageWords wordOfBytes)

/-! ### Memory after a load -/

section Memory

variable {image : List UInt8}

theorem getElem?_memoryOfImage_font (image : List UInt8) {address : Nat} (haddress : address < 80) :
    (memoryOfImage image)[address]? = Font.glyphs[address]? := by
  have hfont : Font.glyphs.length = 80 := Font.length_glyphs
  rw [memoryOfImage, List.getElem?_toArray, List.append_assoc, List.append_assoc,
    List.getElem?_append_left (by omega)]

theorem getElem?_memoryOfImage_zero (image : List UInt8) {address : Nat} (hfont : 80 ≤ address)
    (hstart : address < programStart) : (memoryOfImage image)[address]? = some 0 := by
  have hlength : Font.glyphs.length = 80 := Font.length_glyphs
  rw [memoryOfImage, List.getElem?_toArray, List.append_assoc, List.append_assoc,
    List.getElem?_append_right (by omega),
    List.getElem?_append_left (by rw [List.length_replicate]; omega)]
  exact List.getElem?_replicate_of_lt (by omega)

theorem getElem?_memoryOfImage_image (himage : image.length ≤ programCapacity) {offset : Nat}
    (hoffset : offset < programCapacity) :
    (memoryOfImage image)[programStart + offset]? = some (image.getD offset 0) := by
  have hfront :
      (Font.glyphs ++ List.replicate (programStart - Font.glyphs.length) (0 : UInt8)).length =
        programStart := by
    rw [List.length_append, List.length_replicate]
    rfl
  rw [memoryOfImage, List.getElem?_toArray, List.append_assoc,
    List.getElem?_append_right (by omega), hfront, Nat.add_sub_cancel_left, List.getElem?_append]
  split
  · rw [List.getD_eq_getElem?_getD, List.getElem?_eq_getElem (by assumption), Option.getD_some]
  · rw [List.getElem?_replicate_of_lt (by omega), List.getD_eq_getElem?_getD,
      List.getElem?_eq_none (by omega), Option.getD_none]

theorem State.byte_of_image {state : State} (hmemory : state.memory = memoryOfImage image)
    (himage : image.length ≤ programCapacity) {offset : Nat} {value : UInt8}
    (hvalue : image[offset]? = some value) : state.byte (programStart + offset) = value := by
  obtain ⟨hoffset, rfl⟩ := List.getElem?_eq_some_iff.mp hvalue
  have hbyte := getElem?_memoryOfImage_image himage (show offset < programCapacity by omega)
  rw [byte, hmemory, Array.getD_eq_getD_getElem?, hbyte, Option.getD_some,
    List.getD_eq_getElem?_getD, hvalue, Option.getD_some]

/-- The word at an address of the listing is the image's. -/
theorem State.word_of_image {state : State} (hmemory : state.memory = memoryOfImage image)
    (himage : image.length ≤ programCapacity) {place word : Nat}
    (hword : (imageWords image)[place]? = some word)
    (hpc : state.pc = (programStart + 2 * place : Nat)) : state.word = word := by
  obtain ⟨high, low, hhigh, hlow, rfl⟩ := Assembly.exists_bytes_of_imageWords hword
  have hnext : programStart + 2 * place + 1 = programStart + (2 * place + 1) := by omega
  rw [State.word, hpc, Int.toNat_natCast, hnext, byte_of_image hmemory himage hhigh,
    byte_of_image hmemory himage hlow, wordOfBytes]

end Memory

namespace Machine

variable {source : Type} {config : Config} {machine : Machine source}

/-- The machine stands at an address with the memory that a load left. It is the loaded machine
itself, moved there, or one that the host comes to. -/
inductive StandsAt [ByteSource source] (config : Config) (loaded : Machine source) (address : Int) :
    Machine source → Prop where
  | moved : StandsAt config loaded address
      { loaded with state := { loaded.state with pc := address } }
  | reached {machine : Machine source} (hreachable : Reachable config machine)
    (hmemory : machine.state.memory = loaded.state.memory)
    (hrunning : machine.state.halted = false) (hpc : machine.state.pc = address) :
    StandsAt config loaded address machine

variable [ByteSource source]

theorem Reachable.exists_loaded (hreachable : Reachable config machine) {image : List UInt8}
    (himage : image.length ≤ programCapacity) :
    ∃ loaded, loadProgram image machine = .ok () loaded ∧ Reachable config loaded ∧
      loaded.state.memory = memoryOfImage image ∧ loaded.state.halted = false := by
  have hload := loadProgram_eq machine image
  simp only [if_neg (Nat.not_lt.mpr himage)] at hload
  have hafter := hreachable.call (.load image)
  rw [after, HostCall.action, hload] at hafter
  refine ⟨_, hload, hafter, ?_, ?_⟩
  · rw [note_eq]
  · rw [note_eq]

theorem StandsAt.pc_eq {loaded later : Machine source} {address : Int}
    (hstands : StandsAt config loaded address later) : later.state.pc = address := by
  cases hstands with
  | moved => rfl
  | reached hreachable hmemory hrunning hpc => exact hpc

/-- What a machine that stands at an address shares with the loaded one. -/
theorem StandsAt.ready {loaded later : Machine source} {address : Int}
    (hstands : StandsAt config loaded address later) (hloaded : Reachable config loaded)
    (hrunning : loaded.state.halted = false) (haddress : 0 ≤ address ∧ address ≤ 0xFFFF) :
    later.state.Valid ∧ later.display.HasSize 64 32 ∧ later.state.halted = false ∧
      later.state.memory = loaded.state.memory := by
  cases hstands with
  | moved =>
      have hsound := hloaded.sound
      exact ⟨hsound.state.valid.jump haddress, hsound.display, hrunning, rfl⟩
  | reached hreachable hmemory hlaterRunning hpc =>
      have hsound := hreachable.sound
      exact ⟨hsound.state.valid, hsound.display, hlaterRunning, hmemory⟩

/-- The machine fetches an instruction, and its step executes it unless the machine waits for a key:
the step returns the instruction, or fails by a fault and records the instruction with it. -/
structure Executes (instruction : Instruction) (machine : Machine source) : Prop where
  fetched : ∃ word, machine.state.fetch = .ok word ∧ Instruction.decode word = instruction
  step_eq : machine.state.awaitingKey = false →
    step machine =
      match execute instruction machine.advancePc with
      | .ok _ after =>
        .ok (some instruction)
          (after.finishCycle machine.state.pc instruction machine.state.snapshot)
      | .error failure after =>
        .error failure
          (after.failCycle machine.state.pc (some instruction) machine.state.snapshot failure)
  reported : machine.state.awaitingKey = false →
    (∃ after, step machine = .ok (some instruction) after) ∨
      ∃ fault after, step machine = .error (.fault fault) after ∧
        ∃ entry : TraceEntry, after.trace = machine.appendTrace entry ∧
          entry.pc = machine.state.pc ∧ entry.instruction = some instruction ∧
          entry.error = some fault.message

theorem executes_word (hvalid : machine.state.Valid) (hsize : machine.display.HasSize 64 32)
    (hrunning : machine.state.halted = false) (hpc : machine.state.pc ≤ 4094) :
    Executes (.decode machine.state.word) machine := by
  have hfetch := State.fetch_eq hvalid hpc
  refine ⟨⟨_, hfetch, rfl⟩, ?_, ?_⟩
  · intro hnotWaiting
    rw [step, if_neg (by simp [hrunning]), if_neg (by simp [hnotWaiting])]
    change EStateM.map some cycle machine = _
    simp only [EStateM.map, cycle, ask, hfetch]
    cases execute (.decode machine.state.word) machine.advancePc <;> rfl
  · intro hnotWaiting
    rw [step_of_inside hvalid hsize hrunning hnotWaiting hpc]
    cases machine.transition with
    | ok after => exact Or.inl ⟨_, rfl⟩
    | error refusal =>
        obtain ⟨entry, hentry, hinstruction, herror, htrace⟩ :=
          machine.advancePc.exists_entry_failCycle machine.state.pc
            (some (.decode machine.state.word)) machine.state.snapshot
            (refusal.fault machine.advancePc.state machine.state.word)
        exact Or.inr ⟨_, _, rfl, entry, htrace, hentry, hinstruction, herror⟩

/-- A machine that has come to the address of an entry of the listing executes the entry. -/
theorem StandsAt.executes {loaded later : Machine source} {address : Int}
    (hstands : StandsAt config loaded address later) (hloaded : Reachable config loaded)
    (hrunning : loaded.state.halted = false) {image : List UInt8}
    (himage : image.length ≤ programCapacity) (hmemory : loaded.state.memory = memoryOfImage image)
    {instruction : Instruction} (hentry : (address, instruction) ∈ disassemble 0x200 image) :
    Executes instruction later := by
  obtain ⟨place, hplace⟩ := List.mem_iff_getElem?.mp hentry
  rw [Assembly.getElem?_disassemble, Option.map_eq_some_iff] at hplace
  obtain ⟨word, hword, hpair⟩ := hplace
  obtain ⟨rfl, rfl⟩ := Prod.mk.inj hpair
  have hinside : 2 * place + 1 < image.length := by
    obtain ⟨high, low, -, hlow, -⟩ := Assembly.exists_bytes_of_imageWords hword
    exact (List.getElem?_eq_some_iff.mp hlow).1
  rw [programCapacity, memorySize, programStart] at himage
  have hpc := hstands.pc_eq
  obtain ⟨hvalid, hsize, hlaterRunning, hsame⟩ :=
    hstands.ready hloaded hrunning ⟨by omega, by omega⟩
  have hlaterWord : later.state.word = word :=
    State.word_of_image (hsame.trans hmemory) himage hword (hpc.trans (by rw [programStart]; omega))
  have hexecutes := executes_word hvalid hsize hlaterRunning (by omega)
  rwa [hlaterWord] at hexecutes

/-- Each entry of an image's listing is executed at its address once the image is loaded. Memory has
nothing but the font and the image. -/
theorem Reachable.listing_executed (hreachable : Reachable config machine) {image : List UInt8}
    (himage : image.length ≤ 3584) :
    ∃ loaded, loadProgram image machine = .ok () loaded ∧
      (∀ address instruction, (address, instruction) ∈ disassemble 0x200 image →
        ∀ later, StandsAt config loaded address later →
          later.state.pc = address ∧ Executes instruction later) ∧
      loaded.state.memory.size = 4096 ∧
      (∀ address < 80, loaded.state.memory[address]? = Font.glyphs[address]?) ∧
      (∀ address, 80 ≤ address → address < 0x200 → loaded.state.memory[address]? = some 0) ∧
      ∀ address, 0x200 ≤ address → address < 4096 →
        loaded.state.memory[address]? = some (image.getD (address - 0x200) 0) := by
  obtain ⟨loaded, hload, hloaded, hmemory, hrunning⟩ := hreachable.exists_loaded himage
  refine ⟨loaded, hload, ?_, ?_, ?_, ?_, ?_⟩
  · intro address instruction hentry later hstands
    exact ⟨hstands.pc_eq, hstands.executes hloaded hrunning himage hmemory hentry⟩
  · rw [hmemory, State.size_memoryOfImage himage]
    rfl
  · intro address haddress
    rw [hmemory, getElem?_memoryOfImage_font image haddress]
  · intro address hfont hstart
    rw [hmemory, getElem?_memoryOfImage_zero image hfont hstart]
  · intro address hstart hend
    have hoffset : address - programStart < programCapacity := by
      rw [programCapacity, memorySize, programStart]
      omega
    have hbyte := getElem?_memoryOfImage_image himage hoffset
    rw [programStart, Nat.add_sub_cancel' hstart] at hbyte
    rw [hmemory, hbyte]

/-- A return at `0x202`, loaded over a program that waits in a subroutine: no address to return to
is left of it. The image ends with half a word. -/
theorem listing_executed_emptyStack :
    ∃ loaded, loadProgram [0x12, 0x02, 0x00, 0xEE, 0x99] waitingInSubroutine = .ok () loaded ∧
      Executes (.decode 0x00EE) { loaded with state := { loaded.state with pc := 0x202 } } ∧
      failure? (step { loaded with state := { loaded.state with pc := 0x202 } }) =
        some (.fault (.stackUnderflow 0x202)) ∧
      loaded.state.memory[0x204]? = some 0x99 ∧ loaded.state.memory[0x205]? = some 0 := by
  have himage : [0x12, 0x02, 0x00, 0xEE, (0x99 : UInt8)].length ≤ 3584 := by decide
  obtain ⟨loaded, hload, hexecuted, -, -, -, hbytes⟩ :=
    reachable_waitingInSubroutine.listing_executed himage
  refine ⟨loaded, hload, ?_, ?_, ?_, ?_⟩
  · exact (hexecuted 0x202 (.decode 0x00EE) (by decide +kernel) _ .moved).2
  · have hloaded : loaded = waitingInSubroutine.after (.load [0x12, 0x02, 0x00, 0xEE, 0x99]) := by
      rw [after, HostCall.action, hload]
      rfl
    rw [hloaded]
    decide +kernel
  · exact hbytes 0x204 (by decide) (by decide)
  · exact hbytes 0x205 (by decide) (by decide)

end Machine

end Chip8
