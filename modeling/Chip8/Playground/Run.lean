import Chip8.Assembly.Listing
import Chip8.Clock.Basic
import Chip8.Machine.Report
import Chip8.Playground.Picture
import Chip8.Random.Twister
import Chip8.Text.Numeral
import Chip8.Text.Quoted

/-!
The playground: it runs a program for a number of frames of simulated time and shows the display,
the registers and a listing.

The keys held are given by their digits in base sixteen. The first of them is handed to a program
that waits for a key at the start of a frame.
-/

namespace Chip8.Playground

structure Request where
  program : String
  /-- An image, which is run in place of the program text. -/
  rom : Option (List UInt8)
  frames : Int
  heldKeys : List String
  seed : Option Int

structure Result where
  picture : Picture
  summary : String
  registers : String
  listing : String

/-- The host of a run: the clock and what the display leaves on the phosphor. -/
structure Screen where
  clock : Clock Twister
  phosphor : Phosphor

def refuse (reason : String) : Result :=
  { picture := Picture.blank, summary := "Error: " ++ reason, registers := "", listing := "" }

def keyOfLabel (label : String) : Except Failure Int :=
  match Text.hexInteger? label with
  | some number => .ok number
  | none => .error (.invalidLabel (Text.quoted label))

/-- The mask with the bits of some labels added. A negative number is refused, and one that is no
key has no bit. -/
def maskOfLabels (mask : Nat) : List String → Except Failure Nat
  | [] => .ok mask
  | label :: rest => do
    let number ← keyOfLabel label
    if number < 0 then throw .negativeShift
    maskOfLabels (if number < keyCount then mask ||| 2 ^ number.toNat else mask) rest

/-- Hands the first key held to a program that waits for a key. -/
def offerKey (heldKeys : List String) : Clock.Action Twister Unit := do
  if (← get).machine.state.awaitingKey then
    match heldKeys with
    | [] => pure ()
    | label :: _ =>
      match keyOfLabel label with
      | .error failure => throw failure
      | .ok number => Clock.onMachine (Machine.deliverKey number)

def showFrames (phosphor : Phosphor) (deliveries : List Delivery) : Phosphor :=
  deliveries.foldl (fun phosphor delivery =>
    match delivery.event with
    | .redraw _ _ => phosphor
    | .frame _ frame _ => phosphor.fold frame.pixels) phosphor

/-- Runs one frame and takes the events that it sent. -/
def runFrame (heldKeys : List String) (screen : Screen) : Except Failure Unit × Screen :=
  let frame : Clock.Action Twister Unit := do
    offerKey heldKeys
    discard (Clock.advance (← get).framePeriod)
  let take (clock : Clock Twister) : Screen :=
    { clock := { clock with machine := { clock.machine with deliveries := #[] } }
      phosphor := showFrames screen.phosphor clock.machine.deliveries.toList }
  match frame screen.clock with
  | .ok _ clock => (.ok (), take clock)
  | .error failure clock => (.error failure, take clock)

/-- Runs frames until one fails. -/
def runFrames (heldKeys : List String) : Nat → Screen → Except Failure Unit × Screen
  | 0, screen => (.ok (), screen)
  | count + 1, screen =>
    match runFrame heldKeys screen with
    | (.ok _, screen) => runFrames heldKeys count screen
    | (.error failure, screen) => (.error failure, screen)

def heading (title : String) (width : Nat) : List String :=
  [title, String.ofList (List.replicate width '=')]

def textOfLines (lines : List String) : String :=
  "\n".intercalate lines

def answerText (value : Bool) : String :=
  if value then "Yes" else "No"

def summaryText (clock : Clock Twister) (fault : Option Fault) : String :=
  let summary := clock.machine.summary
  textOfLines <|
    heading "EXECUTION SUMMARY" 40 ++
      [ "Frames: " ++ toString clock.frameCount,
        "Cycles: " ++ toString summary.cycles,
        "Halted: " ++ answerText summary.halted,
        "Waiting for key: " ++ answerText summary.awaitingKey,
        "Lit pixels: " ++ toString summary.litPixels ] ++
      fault.toList.map fun fault => "\nFault: " ++ fault.message

/-- A number after blanks that fill it up to a width. -/
def padLeft (width : Nat) (value : Int) : String :=
  let text := toString value
  String.ofList (List.replicate (width - text.length) ' ') ++ text

def registerLine (name : String) (value : Int) : String :=
  "  " ++ name ++ ": " ++ padLeft 3 value ++ " (" ++ HexFormat.byte.render value ++ ")" ++
    (if value = 0 then "" else " *")

def registersText (summary : Summary) : String :=
  textOfLines <|
    heading "REGISTERS" 30 ++
      summary.registers.map (fun (name, value) => registerLine name value) ++
      [ "",
        "  I:  " ++ HexFormat.address.render summary.index,
        "  PC: " ++ HexFormat.address.render summary.pc,
        "  DT: " ++ toString summary.delayTimer ++ "  ST: " ++ toString summary.soundTimer,
        "  Stack depth: " ++ toString summary.stackDepth ]

def listedBytes : Nat := 512

def listingText (image : List UInt8) : String :=
  let entries := Assembly.disassemble programStart (image.take listedBytes)
  textOfLines (heading "DISASSEMBLY" 40 ++ entries.map Assembly.listingLine)

def imageOf (request : Request) : Except Failure (List UInt8) :=
  match request.rom with
  | some image => .ok image
  | none => Assembly.parse request.program

/-- A machine with the image loaded and the keys held, and a clock that starts. -/
def prepare (request : Request) (image : List UInt8) : Except Failure Screen := do
  let machine := Machine.create {} (Twister.ofSeed (request.seed.getD 0))
  match Machine.loadProgram image machine with
  | .error failure _ => throw failure
  | .ok _ machine =>
    let mask ← maskOfLabels 0 request.heldKeys
    let machine := { machine with keypad := machine.keypad.setMask mask }
    let clock ← Clock.start machine none none none ["phosphor"] 0
    return { clock, phosphor := Phosphor.standard }

/-- The outcome of a run. A fault is reported beside the rest, any other failure in place of it. -/
def result (image : List UInt8) (outcome : Except Failure Unit) (screen : Screen) : Result :=
  let shown (fault : Option Fault) : Result :=
    { picture := Picture.ofPhosphor screen.phosphor
      summary := summaryText screen.clock fault
      registers := registersText screen.clock.machine.summary
      listing := listingText image }
  match outcome with
  | .ok _ => shown none
  | .error (.fault fault) => shown (some fault)
  | .error failure => refuse failure.message

def isBlankText (text : String) : Bool :=
  text.toList.all Text.isBlank

def run (request : Request) : Result :=
  if request.rom.isNone && isBlankText request.program then refuse "No program provided"
  else
    let prepared := do
      let image ← imageOf request
      return (image, ← prepare request image)
    match prepared with
    | .error failure => refuse failure.message
    | .ok (image, screen) =>
      let (outcome, screen) := runFrames request.heldKeys request.frames.toNat screen
      result image outcome screen

end Chip8.Playground
