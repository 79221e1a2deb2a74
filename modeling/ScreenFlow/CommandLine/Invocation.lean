import ScreenFlow.CommandLine.Word

/-!
What a command line asks for.  Words are taken from left to right: asking for help ends the reading
at once, and so does a word that cannot be used; a surplus word is refused only at the end.
-/

namespace ScreenFlow.CommandLine

inductive Command where
  | generate
  | inspect
  deriving DecidableEq, Repr

/-- What has been given so far. -/
structure Given where
  values : List (String × String) := []
  switches : List String := []
  deriving DecidableEq, Repr

namespace Given

/-- The value of a flag; the last one given counts. -/
def value? (given : Given) (name : String) : Option String :=
  given.values.lookup name

def has (given : Given) (name : String) : Bool :=
  given.switches.contains name

def withValue (given : Given) (flag : Flag) (value : String) : Given :=
  { given with values := (flag.name, value) :: given.values }

def withSwitch (given : Given) (flag : Flag) : Given :=
  { given with switches := flag.name :: given.switches }

end Given

inductive Invocation where
  | help
  | refused
  /-- No command is named. -/
  | idle
  | run (command : Command) (unit : String) (project given : Given)
  deriving DecidableEq, Repr

namespace Invocation

def projectFlags : List Flag :=
  [Word.helpFlag, { name := "--project-root" }, { name := "--templates-dir" }]

def commandFlags (command : Command) : List Flag :=
  [ Word.helpFlag, { name := "--platform" }, { name := "--state" }, { name := "--event" },
    { name := "--from-state" } ] ++
    match command with
    | .generate => [
        { name := "--raw", takesValue := false }, { name := "--write", takesValue := false },
        { name := "--output-dir" }]
    | .inspect => []

def command? : String → Option Command
  | "generate" => some .generate
  | "inspect" => some .inspect
  | _ => none

/-- What an option without a value of its own comes to: help, a switch, or nothing usable. -/
def switched (given : Given) (flag : Flag) : Except Invocation Given :=
  if flag = Word.helpFlag then .error .help
  else if flag.takesValue then .error .refused
  else .ok (given.withSwitch flag)

/-- What an option with a value attached comes to. -/
def attached (given : Given) (flag : Flag) (value : String) : Except Invocation Given :=
  if flag.takesValue then .ok (given.withValue flag value) else .error .refused

/-- The value of an option that is given by the next word. -/
def nextValue? (flags : List Flag) : List String → Option String
  | text :: _ =>
      match Word.ofText flags text with
      | .value value => some value
      | _ => none
  | [] => none

/-- The unit and the options of a command. -/
structure Details where
  unit : Option String := none
  given : Given := {}
  surplus : Bool := false

/-- What stands behind a double dash: at most the unit. -/
def Details.close (details : Details) (values : List String) : Details :=
  match details.unit, values with
  | none, unit :: rest =>
      { details with unit := some unit, surplus := details.surplus || !rest.isEmpty }
  | none, [] => details
  | some _, _ => { details with surplus := true }

/-- Takes a value: the first is the unit. -/
def Details.take (details : Details) (value : String) : Details :=
  match details.unit with
  | none => { details with unit := some value }
  | some _ => { details with surplus := true }

/-- Reads the words behind a command; `fuel` is at least their number. -/
def readDetails (flags : List Flag) : Nat → Details → List String → Except Invocation Details
  | 0, details, _ => .ok details
  | _, details, [] => .ok details
  | fuel + 1, details, text :: rest =>
      match Word.ofText flags text with
      | .value value =>
          if details.unit.isNone && rest = ["--"] then .ok (details.take value)
          else readDetails flags fuel (details.take value) rest
      | .separator => .ok (details.close rest)
      | .option flag (some value) => do
          readDetails flags fuel { details with given := ← attached details.given flag value } rest
      | .option flag none =>
          match flag.takesValue, nextValue? flags rest with
          | true, some value =>
              readDetails flags fuel
                { details with given := details.given.withValue flag value } (rest.drop 1)
          | _, _ => do
              readDetails flags fuel { details with given := ← switched details.given flag } rest
      | .unknown => readDetails flags fuel { details with surplus := true } rest
      | .ambiguous => .error .refused

/-- What a command and the words behind it ask for. -/
def ofCommand (command : Command) (project : Given) (texts : List String) : Invocation :=
  let flags := commandFlags command
  if Word.anyAmbiguous flags texts then .refused
  else
    match readDetails flags texts.length {} texts with
    | .error invocation => invocation
    | .ok { unit := some unit, given, surplus := false } => .run command unit project given
    | .ok _ => .refused

/-- An invocation in front of whose command a word was of no use. -/
def spoiled : Invocation → Invocation
  | .help => .help
  | _ => .refused

/-- Reads the words up to the command; `fuel` is at least their number. -/
def readProject : Nat → Given → List String → Except Invocation Invocation
  | 0, _, _ => .ok .idle
  | _, _, [] => .ok .idle
  | fuel + 1, project, text :: rest =>
      match Word.ofText projectFlags text with
      | .value name =>
          match command? name with
          | some command => .ok (ofCommand command project rest)
          | none => .error .refused
      | .separator => .error .refused
      | .option flag (some value) => do readProject fuel (← attached project flag value) rest
      | .option flag none =>
          match flag.takesValue, nextValue? projectFlags rest with
          | true, some value => readProject fuel (project.withValue flag value) (rest.drop 1)
          | _, _ => do readProject fuel (← switched project flag) rest
      | .unknown => do return spoiled (← readProject fuel project rest)
      | .ambiguous => .error .refused

/-- What a command line asks for. -/
def ofTexts (texts : List String) : Invocation :=
  if Word.anyAmbiguous projectFlags texts then .refused
  else
    match readProject texts.length {} texts with
    | .ok invocation => invocation
    | .error invocation => invocation

end Invocation

end ScreenFlow.CommandLine
