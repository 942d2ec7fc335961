import DogCourier.Text.Similar

/-! # The simulation command line

    The simulation takes long options (`--name value` or `--name=value`), the short
    options `-c`, `-t` and `-h` (`-c value`, `-cvalue` or `-c=value`), and the flag
    `--randomize-spawn-points`. `--` ends the options; nothing may follow it.

    Arguments are read left to right. An option's value is checked only when the next
    option is met or the arguments end, so a bad value can be overtaken by an unknown
    argument that follows it. The checks, each ending the run with its message:

    * an argument that names no option (with the most similar long option, if any is
      similar enough, as a tip), or a stray value;
    * an option given twice;
    * an option without its value, a file name that is empty, or a number that is not a
      64-bit unsigned decimal;
    * a value attached to the flag;
    * after all arguments: `--config-file` is required, and `--save-state-period`
      requires `--state-file`.

    `--help` (or `-h`) prints the help text instead. Error texts end with a usage line:
    the general one, or one naming the required options and the options given; after a
    value attached to a flag, once some option has been taken in, the line offers the
    choice among all the run's options instead. -/

namespace DogCourier

/-- The options of the simulation. -/
inductive Opt where
  | configFile
  | tickPeriod
  | stateFile
  | saveStatePeriod
  | randomizeSpawnPoints
  | seed
  | bots
  | runFor
  | help
  deriving DecidableEq, Inhabited

namespace Opt

/-- Every option, in the order of the help text. -/
def all : List Opt :=
  [.configFile, .tickPeriod, .stateFile, .saveStatePeriod, .randomizeSpawnPoints, .seed, .bots,
    .runFor, .help]

/-- The long name. -/
def long : Opt → String
  | .configFile => "config-file"
  | .tickPeriod => "tick-period"
  | .stateFile => "state-file"
  | .saveStatePeriod => "save-state-period"
  | .randomizeSpawnPoints => "randomize-spawn-points"
  | .seed => "seed"
  | .bots => "bots"
  | .runFor => "run-for"
  | .help => "help"

/-- The short name. -/
def short : Opt → Option Char
  | .configFile => some 'c'
  | .tickPeriod => some 't'
  | .help => some 'h'
  | _ => none

/-- The name of the option's value; flags have none. -/
def valueName : Opt → Option String
  | .configFile => some "CONFIG_FILE"
  | .tickPeriod => some "TICK_PERIOD"
  | .stateFile => some "STATE_FILE"
  | .saveStatePeriod => some "SAVE_STATE_PERIOD"
  | .seed => some "SEED"
  | .bots => some "BOTS"
  | .runFor => some "RUN_FOR"
  | _ => none

/-- The option takes a value. -/
def takesValue (o : Opt) : Bool := o.valueName.isSome

/-- The value is a file name. -/
def isPath : Opt → Bool
  | .configFile => true
  | .stateFile => true
  | _ => false

/-- The option as messages name it. -/
def display (o : Opt) : String :=
  "--" ++ o.long ++ match o.valueName with
    | some v => " <" ++ v ++ ">"
    | none => ""

/-- The options that make up a run's settings: all but `--help`. -/
def settings : List Opt := all.filter (· != .help)

/-- The option with a long name. -/
def ofLong (s : String) : Option Opt := all.find? fun o => o.long == s

/-- The option with a short name. -/
def ofShort (c : Char) : Option Opt := all.find? fun o => o.short == some c

end Opt

/-- An item of a usage line: one option, or the choice among all the run's options. -/
inductive UsageItem where
  | opt (o : Opt)
  | anyOption
  deriving DecidableEq, Inhabited

/-- The item as a usage line shows it; the choice lists the options between angle
brackets, separated by bars. -/
def UsageItem.display : UsageItem → String
  | .opt o => o.display
  | .anyOption => "<" ++ "|".intercalate (Opt.settings.map Opt.display) ++ ">"

/-- Why the command line was refused. -/
inductive ArgError where
  /-- An argument that is no option; the tip, and the items of the usage line. -/
  | unexpected (arg : String) (similar : Option Opt) (usage : List UsageItem)
  | repeated (o : Opt)
  | noValue (o : Opt)
  | badValue (o : Opt) (value reason : String)
  /-- A value attached to a flag. -/
  | extraValue (o : Opt) (value : String) (usage : List UsageItem)
  | missing (required : List Opt) (usage : List UsageItem)
  deriving Inhabited

/-- The program's name in usage lines. -/
def programName : String := "dogstory-simtest"

/-- The usage line naming `items`, or the general one when there are none. -/
def usageLine (items : List UsageItem) : String :=
  "Usage: " ++ programName ++ " " ++
    if items.isEmpty then "[OPTIONS] " ++ Opt.configFile.display
    else " ".intercalate (items.map UsageItem.display)

/-- The full text of the error, as printed. -/
def ArgError.render (e : ArgError) : String :=
  let q (s : String) : String := "'" ++ s ++ "'"
  let body := match e with
    | .unexpected a none _ => "unexpected argument " ++ q a ++ " found"
    | .unexpected a (some o) _ =>
      "unexpected argument " ++ q a ++ " found\n\n  tip: a similar argument exists: " ++ q ("--" ++ o.long)
    | .repeated o => "the argument " ++ q o.display ++ " cannot be used multiple times"
    | .noValue o => "a value is required for " ++ q o.display ++ " but none was supplied"
    | .badValue o v r => "invalid value " ++ q v ++ " for " ++ q o.display ++ ": " ++ r
    | .extraValue o v _ => "unexpected value " ++ q v ++ " for " ++ q o.display ++ " found; no more were expected"
    | .missing req _ =>
      "the following required arguments were not provided:" ++ String.join (req.map fun o => "\n  " ++ o.display)
  let usage := match e with
    | .unexpected _ _ u => some u
    | .repeated _ => some []
    | .extraValue _ _ u => some u
    | .missing _ u => some u
    | _ => none
  "error: " ++ body ++ (match usage with
    | some u => "\n\n" ++ usageLine u
    | none => "") ++ "\n\nFor more information, try '--help'.\n"

/-- Reads an unsigned 64-bit decimal: an optional `+`, then digits; the first fault
(a non-digit, or the value passing `2^64 - 1`) decides the reason. -/
def readCount (s : String) : Except String Nat :=
  let digits := if s.startsWith "+" then (s.drop 1).toString else s
  if s.isEmpty then .error "cannot parse integer from empty string"
  else if digits.isEmpty then .error "invalid digit found in string"
  else digits.toList.foldlM (fun acc c =>
    if !c.isDigit then .error "invalid digit found in string"
    else if acc * 10 + (c.toNat - '0'.toNat) ≥ Nat.pow 2 64 then .error "number too large to fit in target type"
    else .ok (acc * 10 + (c.toNat - '0'.toNat))) 0

/-- The error of a value that does not suit its option. -/
def Opt.check (o : Opt) (v : String) : Option ArgError :=
  if o.isPath then (if v.isEmpty then some (.noValue o) else none)
  else match readCount v with
    | .error r => some (.badValue o v r)
    | .ok _ => none

/-- Why reading stopped: the help text was asked for, or an error. -/
inductive ArgStop where
  | help
  | error (e : ArgError)
  deriving Inhabited

/-- The arguments read so far. -/
structure ArgState where
  /-- Options given, in order, with their values (`true` for the flag). -/
  given : List (Opt × String) := []
  /-- An option and the value it has collected, not yet checked. -/
  pending : Option (Opt × List String) := none
  /-- The pending option still wants its value. -/
  awaiting : Bool := false
  /-- `--` was seen. -/
  trailing : Bool := false
  deriving Inhabited

namespace ArgState

/-- The options given. -/
def opts (st : ArgState) : List Opt := st.given.map (·.1)

/-- The options given with `o` after them unless it is among them. -/
def withOpt (st : ArgState) (o : Opt) : List Opt := if st.opts.contains o then st.opts else st.opts ++ [o]

/-- Takes in an option with its values: a second use, a missing value and a bad value
are refused, the last one after the option is recorded. -/
def take (st : ArgState) (o : Opt) (vals : List String) : ArgState × Option ArgStop :=
  if o = .help then (st, some .help)
  else match vals, o.takesValue with
    | [], true => (st, some (.error (.noValue o)))
    | _, _ =>
      let v := vals.headD "true"
      if st.opts.contains o then
        ({ st with given := st.given.filter fun p => p.1 != o }, some (.error (.repeated o)))
      else
        let st := { st with given := st.given ++ [(o, v)] }
        if o.takesValue then (st, (o.check v).map .error) else (st, none)

/-- Takes in the pending option, if any. -/
def resolve (st : ArgState) : ArgState × Option ArgStop :=
  match st.pending with
  | none => (st, none)
  | some (o, vals) => take { st with pending := none, awaiting := false } o vals

/-- Takes in the pending option; its refusal stops reading. -/
def settle (st : ArgState) : Except ArgStop ArgState :=
  match st.resolve with
  | (st, none) => .ok st
  | (_, some s) => .error s

/-- Takes in the pending option, then `o` with its values. -/
def settleThen (st : ArgState) (o : Opt) (vals : List String) : Except ArgStop ArgState := do
  let st ← st.settle
  match st.take o vals with
  | (st, none) => .ok st
  | (_, some s) => .error s

/-- Makes `o` the pending option, waiting for its value. -/
def expect (st : ArgState) (o : Opt) : Except ArgStop ArgState := do
  let st ← st.settle
  return { st with pending := some (o, []), awaiting := true }

/-- The long option most similar to `name`, if any is similar enough; among equals the
last one wins. -/
def similar (name : String) : Option Opt :=
  (Opt.all.filter fun o => jaro name o.long > 0.7).foldl (fun best o =>
    match best with
    | some b => if jaro name o.long ≥ jaro name b.long then some o else best
    | none => some o) none

/-- The items of a usage line after `given`: the required option, then the rest. -/
def usageAfter (given : List Opt) : List UsageItem :=
  if given.isEmpty then [] else (Opt.configFile :: given.filter (· != .configFile)).map .opt

/-- The items of the usage line after a value attached to the flag `o`: before any
option is taken in, the required option and `o`; after, the choice among all options,
with `o` before it unless it is one of them. -/
def usageForExtra (st : ArgState) (o : Opt) : List UsageItem :=
  if st.given.isEmpty then usageAfter [o]
  else (if Opt.settings.contains o then [] else [.opt o]) ++ [.anyOption]

/-- An argument that is not an option and not a value. -/
def stray (arg : String) : Except ArgStop ArgState := .error (.error (.unexpected arg none []))

/-- Reads a long option, `name` or `name=value`. -/
def longOpt (st : ArgState) (body : String) : Except ArgStop ArgState :=
  let name := (body.takeWhile (· != '=')).toString
  let attached : Option String :=
    if body.contains '=' then some (body.dropWhile (· != '=') |>.drop 1).toString else none
  match Opt.ofLong name with
  | none =>
    let st := st.resolve.1
    let tip := similar name
    let shown := match tip with
      | some o => st.withOpt o
      | none => st.opts
    .error (.error (.unexpected ("--" ++ name) tip (usageAfter shown)))
  | some o =>
    if o.takesValue then
      match attached with
      | some v => st.settleThen o [v]
      | none => st.expect o
    else match attached with
      | some v => .error (.error (.extraValue o v (st.usageForExtra o)))
      | none => st.settleThen o []

/-- Reads a cluster of short options. -/
def shortOpts (st : ArgState) : List Char → Except ArgStop ArgState
  | [] => .ok st
  | c :: rest =>
    match Opt.ofShort c with
    | none => .error (.error (.unexpected ("-" ++ String.singleton c) none []))
    | some o =>
      if !o.takesValue then do
        let st ← st.settleThen o []
        shortOpts st rest
      else
        let v := String.ofList rest
        if v.isEmpty then st.expect o
        else st.settleThen o [if v.startsWith "=" then (v.drop 1).toString else v]

/-- Reads one argument. -/
def step (st : ArgState) (arg : String) : Except ArgStop ArgState :=
  if st.trailing then stray arg
  else if arg == "--" then .ok { st with trailing := true }
  else if arg.startsWith "--" then st.longOpt (arg.drop 2).toString
  else if arg.startsWith "-" && arg.length > 1 then st.shortOpts (arg.drop 1).toString.toList
  else if st.awaiting then
    match st.pending with
    | some (o, vals) => .ok { st with pending := some (o, vals ++ [arg]), awaiting := false }
    | none => stray arg
  else stray arg

/-- The options that must be given: the configuration, and the state file when a save
period is given. -/
def required (st : ArgState) : List Opt :=
  if st.opts.contains .saveStatePeriod then [.configFile, .stateFile] else [.configFile]

/-- Checks the required options after the last argument. -/
def finish (st : ArgState) : Except ArgStop ArgState := do
  let st ← st.settle
  let req := st.required
  let absent := req.filter fun o => !st.opts.contains o
  if absent.isEmpty then return st
  let rest := st.opts.filter fun o => !req.contains o
  let shown := (req ++ rest ++ absent).foldl (fun acc o => if acc.contains o then acc else acc ++ [o]) []
  throw (.error (.missing absent (shown.map .opt)))

/-- The value given for `o`. -/
def value? (st : ArgState) (o : Opt) : Option String := (st.given.find? fun p => p.1 == o).map (·.2)

/-- The number given for `o`. -/
def count? (st : ArgState) (o : Opt) : Option Nat := (st.value? o).bind fun v => (readCount v).toOption

end ArgState

/-- The settings of a simulation run. -/
structure SimOptions where
  configFile : String
  tickPeriod : Option Nat := none
  stateFile : Option String := none
  saveStatePeriod : Nat := 0
  randomizeSpawnPoints : Bool := false
  seed : Option Nat := none
  bots : Nat := 4
  runFor : Nat := 30
  deriving Inhabited

/-- Reads the command line into the run's settings. -/
def SimOptions.parse (args : List String) : Except ArgStop SimOptions := do
  let st ← args.foldlM ArgState.step {}
  let st ← st.finish
  return { configFile := (st.value? .configFile).getD ""
           tickPeriod := st.count? .tickPeriod
           stateFile := st.value? .stateFile
           saveStatePeriod := (st.count? .saveStatePeriod).getD 0
           randomizeSpawnPoints := st.opts.contains .randomizeSpawnPoints
           seed := st.count? .seed
           bots := (st.count? .bots).getD 4
           runFor := (st.count? .runFor).getD 30 }

/-- The help text. -/
def helpText : String :=
  "Run a Dog Story game with bot players\n\n" ++
  "Usage: " ++ programName ++ " [OPTIONS] --config-file <CONFIG_FILE>\n\n" ++
  "Options:\n" ++
  "  -c, --config-file <CONFIG_FILE>\n" ++
  "          Game config JSON\n" ++
  "  -t, --tick-period <TICK_PERIOD>\n" ++
  "          Automatic tick period in milliseconds; omit to tick from the harness\n" ++
  "      --state-file <STATE_FILE>\n" ++
  "          State file to restore from and save to\n" ++
  "      --save-state-period <SAVE_STATE_PERIOD>\n" ++
  "          Save the state file every N milliseconds of game time (0: only on exit) [default: 0]\n" ++
  "      --randomize-spawn-points\n" ++
  "          Spawn dogs at random road points\n" ++
  "      --seed <SEED>\n" ++
  "          Seed for sessions and bots\n" ++
  "      --bots <BOTS>\n" ++
  "          Number of bot dogs [default: 4]\n" ++
  "      --run-for <RUN_FOR>\n" ++
  "          Game time to run, in seconds [default: 30]\n" ++
  "  -h, --help\n" ++
  "          Print help\n"

end DogCourier
