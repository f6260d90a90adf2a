import Chip8.CommandLine.Session
import Chip8.Render.Terminal

/-!
The program: the command line on the files, the clock and the standard streams of the system.
-/

namespace Chip8.CommandLine

def usage : String :=
  Machine.textOfLines
    [ "usage: chip8 (--rom PATH | --inline WORDS) [option ...]",
      "",
      "  -r, --rom PATH      run the program in a file",
      "  -i, --inline WORDS  run a program of hexadecimal words, separated by spaces or semicolons",
      "  -c, --config PATH   read the configuration from a file",
      "  --cycles N          run for a number of cycles, 1000 if nothing is given",
      "  --realtime SECONDS  run under the clock and draw the frames",
      "  --cpu-hz N          instructions per second under the clock",
      "  --seed N            seed of the random numbers",
      "  -t, --trace         print all executed instructions",
      "  -s, --screen        print the display at the end, unless it ran under the clock",
      "  -q, --quiet         print the registers that are not zero, and nothing else",
      "  -v, --verbose       log every instruction",
      "  -h, --help          print this text" ]

def readEntry (path : String) : IO Entry := do
  try
    return .file (← IO.FS.readBinFile path).toList
  catch
    | .noFileOrDirectory .. => return .missing
    | _ => return .directory

def drawFrames (terminal : Terminal) (deliveries : Array Delivery) : IO Terminal :=
  deliveries.foldlM
    (fun terminal delivery => do
      let (text, terminal) := terminal.handle delivery.event
      IO.print text
      return terminal)
    terminal

/-- Ticks a clock until a deadline and draws its frames, sleeping for a millisecond between
ticks. -/
partial def tickUntil (deadline : Int) (terminal : Terminal) (clock : Clock Twister) :
    IO (Except Failure Unit × Clock Twister) := do
  if deadline ≤ (← IO.monoNanosNow) then return (.ok (), clock)
  match Clock.tick (← IO.monoNanosNow) clock with
  | .error failure clock => return (.error failure, clock)
  | .ok _ clock =>
    let terminal ← drawFrames terminal clock.machine.deliveries
    (← IO.getStdout).flush
    IO.sleep 1
    tickUntil deadline terminal
      { clock with machine := { clock.machine with deliveries := #[] } }

def write (report : Report) : IO UInt32 := do
  IO.print report.stdout
  IO.eprint report.stderr
  match report.outcome with
  | .ok code => return UInt32.ofNat code
  | .error failure =>
    IO.eprintln failure.message
    return 1

def play (session : Session) (clock : Clock Twister) (duration : Int) : IO UInt32 := do
  IO.print session.stdout
  let now ← IO.monoNanosNow
  let terminal := Terminal.create "*" " " true
  let (result, clock) ← tickUntil (now + duration) terminal (clock.restart now)
  write ({ session with machine := clock.machine, stdout := "" }.finish result)

/-- A seed from the system's source of random bytes. -/
def entropy : IO Int := do
  let bytes ← IO.getRandomBytes 8
  return bytes.toList.foldl (fun seed byte => 256 * seed + byte.toNat) (0 : Int)

/-- Carries out the arguments of the command line; the result is the exit code. -/
def perform (arguments : List String) : IO UInt32 := do
  match Options.parse arguments with
  | .error .help =>
    IO.print usage
    return 0
  | .error .misuse =>
    IO.eprint usage
    return 2
  | .ok options =>
    let config ← readEntry (options.config.getD "")
    let rom ← readEntry (options.rom.getD "")
    let entryAt (path : String) := if options.config = some path then config else rom
    match run options entryAt (← entropy) (← IO.monoNanosNow) with
    | .done report => write report
    | .live session clock duration => play session clock duration

end Chip8.CommandLine

def main (arguments : List String) : IO UInt32 :=
  Chip8.CommandLine.perform arguments
