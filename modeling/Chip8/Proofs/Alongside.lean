import Chip8.Proofs.Cycle
import Chip8.Proofs.Lockstep

/-!
# Machines that differ in their reports

Two machines may be traced differently and write different notes, and their listeners may hear
things that one is not interested in. No call tells such machines apart: what a machine reports
about itself never comes back to it.
-/

namespace Chip8.Machine

open ByteSource (SameBytes)

variable {source other : Type} {heeds : Event → Bool}

/-- The deliveries of the events that are heeded. -/
def heeded (heeds : Event → Bool) (machine : Machine source) : List Delivery :=
  machine.deliveries.toList.filter (heeds ·.event)

theorem heeded_all (machine : Machine source) :
    machine.heeded (fun _ => true) = machine.deliveries.toList :=
  List.filter_true _

theorem toList_deliveries_send (machine : Machine source) (listeners : List String)
    (event : Event) :
    (machine.send listeners event).deliveries.toList =
      machine.deliveries.toList ++ event.deliver listeners :=
  Array.toList_appendList

theorem filter_deliver (event : Event) (listeners : List String) :
    (event.deliver listeners).filter (heeds ·.event) =
      if heeds event then event.deliver listeners else [] := by
  rw [Event.deliver, List.filter_map]
  change ((listeners.filter fun _ => heeds event).map _) = _
  cases heeds event <;> simp

theorem heeded_of_deliver {machine after : Machine source} {event : Event}
    {listeners : List String}
    (hdeliveries : after.deliveries.toList =
      machine.deliveries.toList ++ event.deliver listeners) :
    after.heeded heeds =
      machine.heeded heeds ++ if heeds event then event.deliver listeners else [] := by
  rw [heeded, hdeliveries, List.filter_append, filter_deliver, heeded]

theorem heeded_send (machine : Machine source) (listeners : List String) (event : Event) :
    (machine.send listeners event).heeded heeds =
      machine.heeded heeds ++ if heeds event then event.deliver listeners else [] :=
  heeded_of_deliver (toList_deliveries_send machine listeners event)

variable [ByteSource source] [ByteSource other]

/-- Two machines that differ in their traces, their notes and the events that are not heeded. -/
structure Alongside (heeds : Event → Bool) (machine : Machine source) (twin : Machine other) :
    Prop where
  config_eq : machine.config.untraced = twin.config.untraced
  state_eq : machine.state = twin.state
  display_eq : machine.display = twin.display
  keypad_eq : machine.keypad = twin.keypad
  bytes : SameBytes machine.random twin.random
  listeners_eq : machine.listeners = twin.listeners
  heeded_eq : machine.heeded heeds = twin.heeded heeds

namespace Alongside

variable {machine : Machine source} {twin : Machine other}

theorem refl (machine : Machine source) : Alongside heeds machine machine :=
  ⟨rfl, rfl, rfl, rfl, SameBytes.refl _, rfl, rfl⟩

theorem record (halong : Alongside heeds machine twin) (pc : Int)
    (instruction : Option Instruction) (before : Snapshot) (error : Option String) :
    Alongside heeds (machine.record pc instruction before error)
      (twin.record pc instruction before error) := by
  rw [record_eq machine, record_eq twin]
  exact { halong with }

theorem note (halong : Alongside heeds machine twin) (level : Level) (topic : Topic)
    (text : Unit → String) :
    Alongside heeds (machine.note level topic text) (twin.note level topic text) := by
  rw [note_eq machine, note_eq twin]
  exact { halong with }

theorem send_unheeded (halong : Alongside heeds machine twin) {event : Event}
    (hunheeded : heeds event = false) (listeners : List String) :
    Alongside heeds machine (twin.send listeners event) := by
  refine { halong with heeded_eq := ?_ }
  rw [heeded_send, if_neg (by simp [hunheeded]), List.append_nil, halong.heeded_eq]

theorem requestRedraw (halong : Alongside heeds machine twin) :
    Alongside heeds machine.requestRedraw twin.requestRedraw := by
  refine { halong with heeded_eq := ?_ }
  rw [Machine.requestRedraw, Machine.requestRedraw, heeded_send, heeded_send, halong.heeded_eq,
    halong.listeners_eq, halong.state_eq, halong.display_eq]

end Alongside

theorem lockstep_alongside :
    Lockstep (Alongside heeds : Machine source → Machine other → Prop) where
  config_eq halong := halong.config_eq
  state_eq halong := halong.state_eq
  display_eq halong := halong.display_eq
  keypad_eq halong := halong.keypad_eq
  byte_eq halong := (ByteSource.sameBytes_next halong.bytes).1
  setState halong _ := { halong with state_eq := rfl }
  setDisplay halong _ := { halong with display_eq := rfl }
  setKeypad halong _ := { halong with keypad_eq := rfl }
  dropByte halong := { halong with bytes := (ByteSource.sameBytes_next halong.bytes).2 }
  clearTrace halong := { halong with }
  record halong pc instruction before error := halong.record pc instruction before error
  requestRedraw halong := halong.requestRedraw
  note halong level topic text := halong.note level topic text
  addListener halong listener :=
    { halong with listeners_eq := congrArg (· ++ [listener]) halong.listeners_eq }

end Chip8.Machine
