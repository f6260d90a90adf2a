import Chip8.Text.Decimal

/-!
The options of the command line.

An option has a long name, and most have a letter, too. A long name may be cut short as long as only
one option starts that way. A value follows as the next argument, after `=`, or directly after the
letter; letters of options without a value may be joined. An argument that does not look like an
option, such as a negative number, may be a value; one that no option takes is refused.
-/

namespace Chip8.CommandLine

structure Options where
  rom : Option String := none
  inline : Option String := none
  config : Option String := none
  cycles : Option Int := none
  /-- The seconds to run under the clock. -/
  realtime : Option Float := none
  cpuHz : Option Int := none
  seed : Option Int := none
  trace : Bool := false
  screen : Bool := false
  quiet : Bool := false
  verbose : Bool := false

/-- Why a command line is not carried out. -/
inductive Refusal where
  | misuse
  /-- The user asked for help. -/
  | help
  deriving DecidableEq, Repr

inductive Flag where
  | help
  | trace
  | screen
  | quiet
  | verbose
  deriving DecidableEq, Repr

inductive Field where
  | rom
  | inline
  | config
  | cycles
  | realtime
  | cpuHz
  | seed
  deriving DecidableEq, Repr

inductive Switch where
  | flag (flag : Flag)
  | field (field : Field)
  deriving DecidableEq, Repr

def switches : List (String × Switch) :=
  [("-h", .flag .help), ("--help", .flag .help), ("--rom", .field .rom), ("-r", .field .rom),
    ("--inline", .field .inline), ("-i", .field .inline), ("--config", .field .config),
    ("-c", .field .config), ("--cycles", .field .cycles), ("--realtime", .field .realtime),
    ("--cpu-hz", .field .cpuHz), ("--seed", .field .seed), ("--trace", .flag .trace),
    ("-t", .flag .trace), ("--screen", .flag .screen), ("-s", .flag .screen),
    ("--quiet", .flag .quiet), ("-q", .flag .quiet), ("--verbose", .flag .verbose),
    ("-v", .flag .verbose)]

def named? (name : List Char) : Option Switch :=
  (switches.find? fun (known, _) => known.toList == name).map Prod.snd

def startingWith (name : List Char) : List Switch :=
  (switches.filter fun (known, _) => name.isPrefixOf known.toList).map Prod.snd

/-- Text that stands in the same argument as its option. -/
structure Joined where
  text : List Char
  /-- Whether `=` stands before it. -/
  marked : Bool

inductive Word where
  | value (text : List Char)
  /-- An option, named by its letter or not, with the text joined to it. -/
  | switch (switch : Switch) (byLetter : Bool) (joined : Option Joined)
  /-- An unknown option, or the mark before arguments that are values only. -/
  | stray

/-- The text before the first `=`, and what follows that if there is one. -/
def splitAtEquals (text : List Char) : List Char × Option Joined :=
  let name := text.takeWhile (· != '=')
  match text.drop name.length with
  | [] => (name, none)
  | _ :: value => (name, some ⟨value, true⟩)

def isByLetter : List Char → Bool
  | _ :: c :: _ => c != '-'
  | _ => false

/-- A minus sign and digits of any script, among them a point if digits follow it. -/
def isNegativeNumber (text : List Char) : Bool :=
  let isDigit (c : Char) := (Text.decimalValue? c).isSome
  let line := if text.getLast? == some '\n' then text.dropLast else text
  match line with
  | '-' :: number =>
    match number.dropWhile isDigit with
    | [] => !number.isEmpty
    | '.' :: fraction => !fraction.isEmpty && fraction.all isDigit
    | _ => false
  | _ => false

/-- The options that an argument without an exact name may stand for. -/
def candidates (text : List Char) : List Word :=
  match text with
  | '-' :: '-' :: _ =>
    let (name, joined) := splitAtEquals text
    (startingWith name).map fun switch => .switch switch false joined
  | '-' :: letter :: rest =>
    (named? ['-', letter]).toList.map fun switch => .switch switch true (some ⟨rest, false⟩)
  | _ => []

def markedWord? (text : List Char) : Option Word :=
  match splitAtEquals text with
  | (name, some joined) =>
    (named? name).map fun switch => .switch switch (isByLetter name) (some joined)
  | _ => none

/-- What an argument that starts with a dash looks like. -/
def wordOfDash (text : List Char) : Except Refusal Word :=
  match candidates text with
  | [word] => .ok word
  | [] => .ok (if isNegativeNumber text || text.contains ' ' then .value text else .stray)
  | _ => .error .misuse

def wordOfArgument (text : List Char) : Except Refusal Word :=
  if text.head? != some '-' then .ok (.value text)
  else
    match named? text with
    | some switch => .ok (.switch switch (isByLetter text) none)
    | none =>
      if text.length = 1 then .ok (.value text)
      else
        match markedWord? text with
        | some word => .ok word
        | none => wordOfDash text

/-- What the arguments look like; after `--` all of them are values. -/
def wordsOfArguments : List String → Except Refusal (List Word)
  | [] => .ok []
  | argument :: rest =>
    if argument == "--" then .ok (.stray :: rest.map (.value ·.toList))
    else do
      let word ← wordOfArgument argument.toList
      return word :: (← wordsOfArguments rest)

inductive Setting where
  | flag (flag : Flag)
  | field (field : Field) (value : List Char)

structure Settings where
  settings : List Setting := []
  /-- The option at the end whose value is in the next argument. -/
  wanting : Option Field := none
  /-- Whether a letter of the argument names no option. -/
  stray : Bool := false

def Settings.ofSwitch : Switch → Settings
  | .flag flag => { settings := [.flag flag] }
  | .field field => { wanting := some field }

def Settings.consFlag (flag : Flag) (settings : Settings) : Settings :=
  { settings with settings := .flag flag :: settings.settings }

/-- The settings of an option named by its letter and of the text joined to it. -/
def settingsOfJoined (switch : Switch) (marked : Bool) (text : List Char) :
    Except Refusal Settings :=
  match switch, text with
  | .field field, text => .ok { settings := [.field field text] }
  | .flag _, [] => .error .misuse
  | .flag flag, letter :: rest =>
    if marked || letter == '-' then .error .misuse
    else
      match named? ['-', letter] with
      | none => .ok { settings := [.flag flag], stray := true }
      | some next =>
        match rest with
        | [] => .ok ((Settings.ofSwitch next).consFlag flag)
        | '=' :: value => (settingsOfJoined next true value).map (·.consFlag flag)
        | c :: more => (settingsOfJoined next false (c :: more)).map (·.consFlag flag)
  termination_by text.length

def settingsOfSwitch (switch : Switch) (byLetter : Bool) (joined : Option Joined) :
    Except Refusal Settings :=
  match joined with
  | none => .ok (Settings.ofSwitch switch)
  | some joined =>
    if byLetter then settingsOfJoined switch joined.marked joined.text
    else
      match switch with
      | .field field => .ok { settings := [.field field joined.text] }
      | .flag _ => .error .misuse

def integer (text : String) : Except Refusal (Option Int) :=
  match Text.integer? text with
  | some value => .ok (some value)
  | none => .error .misuse

def float (text : String) : Except Refusal (Option Float) :=
  match Text.float? text with
  | some value => .ok (some value)
  | none => .error .misuse

namespace Options

def setFlag (options : Options) : Flag → Except Refusal Options
  | .help => .error .help
  | .trace => .ok { options with trace := true }
  | .screen => .ok { options with screen := true }
  | .quiet => .ok { options with quiet := true }
  | .verbose => .ok { options with verbose := true }

def setField (options : Options) (text : String) : Field → Except Refusal Options
  | .rom => .ok { options with rom := some text }
  | .inline => .ok { options with inline := some text }
  | .config => .ok { options with config := some text }
  | .cycles => return { options with cycles := ← integer text }
  | .realtime => return { options with realtime := ← float text }
  | .cpuHz => return { options with cpuHz := ← integer text }
  | .seed => return { options with seed := ← integer text }

def set (options : Options) : Setting → Except Refusal Options
  | .flag flag => options.setFlag flag
  | .field field value => options.setField (String.ofList value) field

def ofWords (options : Options) (stray : Bool) : List Word → Except Refusal Options
  | [] => if stray then .error .misuse else .ok options
  | .value _ :: rest => options.ofWords true rest
  | .stray :: rest => options.ofWords true rest
  | .switch switch byLetter joined :: rest => do
    let settings ← settingsOfSwitch switch byLetter joined
    match settings.wanting, rest with
    | none, rest =>
      (← settings.settings.foldlM set options).ofWords (stray || settings.stray) rest
    | some field, .value text :: rest =>
      let settings := settings.settings ++ [.field field text]
      (← settings.foldlM set options).ofWords stray rest
    | some _, _ => throw .misuse

def present (text : Option String) : Bool :=
  text.any (!·.isEmpty)

/-- A program has to be given. Without a way to run it, it runs for a thousand cycles. -/
def complete (options : Options) : Except Refusal Options :=
  if !present options.rom && !present options.inline then .error .misuse
  else if options.cycles.isNone && options.realtime.isNone then
    .ok { options with cycles := some 1000 }
  else .ok options

/-- Reads the arguments of the command line. The last of repeated options counts. -/
def parse (arguments : List String) : Except Refusal Options := do
  (← ofWords {} false (← wordsOfArguments arguments)).complete

end Options

end Chip8.CommandLine
