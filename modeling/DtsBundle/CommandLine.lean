import DtsBundle.Log
/-!
# The command line

Four settings take a value and four switches take none.  A setting is written `--name value`, `--name=value`, or with
its letter `-n value`, `-nvalue` or `-n=value`; letters of switches may share one dash, and a setting may come last
among them.

Tokens are taken from left to right.  A setting that waits for its value takes the next token unless that starts with a
dash; a dash alone is a value.  The value is not looked at until the next known option comes or the line ends, so a
token that is no option at all is refused before a value in front of it is.  Each setting and each switch may be given
once.  What is not given comes from the environment, where it may, or from the default.
-/
namespace DtsBundle

/-- What a command line asks for. -/
structure Options where
  name : Text
  filename : Text
  dir : Text
  tsc : Text
  printUnit : Bool
  strict : Bool
  verbose : Bool
  debug : Bool
deriving DecidableEq, Repr

/-- What a run takes from its environment: the compiler to use, and the log to keep. -/
structure Environment where
  compiler : Option Text
  logFilter : Option Text
deriving DecidableEq, Repr

namespace CommandLine

/-- Why a command line asks for no run. -/
inductive Refusal where
  | help
  | version
  | unknownArgument
  | invalidValue
  | givenTwice
  | valueNotTaken
  | missingArgument
deriving DecidableEq, Repr

/-- An option that takes a value. -/
inductive Setting where
  | name
  | filename
  | dir
  | tsc
deriving DecidableEq, Repr

/-- An option that takes none. -/
inductive Switch where
  | printUnit
  | strict
  | verbose
  | debug
deriving DecidableEq, Repr

/-- Everything a dash can introduce. -/
inductive Flag where
  | setting (setting : Setting)
  | switch (switch : Switch)
  | help
  | version
deriving DecidableEq, Repr

/-- The option of a long name. -/
def ofLong? (name : Text) : Option Flag :=
  if name = "name".toList then some (.setting .name)
  else if name = "filename".toList then some (.setting .filename)
  else if name = "dir".toList then some (.setting .dir)
  else if name = "tsc".toList then some (.setting .tsc)
  else if name = "print-unit".toList then some (.switch .printUnit)
  else if name = "strict".toList then some (.switch .strict)
  else if name = "verbose".toList then some (.switch .verbose)
  else if name = "debug".toList then some (.switch .debug)
  else if name = "help".toList then some .help
  else if name = "version".toList then some .version
  else none

/-- The option of a letter. -/
def ofShort? : Char → Option Flag
  | 'n' => some (.setting .name)
  | 'f' => some (.setting .filename)
  | 'C' => some (.setting .dir)
  | 'v' => some (.switch .verbose)
  | 'd' => some (.switch .debug)
  | 'h' => some .help
  | 'V' => some .version
  | _ => none

/-- What has been given so far. -/
structure Given where
  name : Option Text
  filename : Option Text
  dir : Option Text
  tsc : Option Text
  printUnit : Bool
  strict : Bool
  verbose : Bool
  debug : Bool
deriving DecidableEq, Repr

namespace Given

/-- Nothing given yet. -/
def nothing : Given :=
  ⟨none, none, none, none, false, false, false, false⟩

/-- The value given to a setting. -/
def value? (given : Given) : Setting → Option Text
  | .name => given.name
  | .filename => given.filename
  | .dir => given.dir
  | .tsc => given.tsc

/-- A value given to a setting. -/
def withValue (given : Given) (value : Text) : Setting → Given
  | .name => { given with name := some value }
  | .filename => { given with filename := some value }
  | .dir => { given with dir := some value }
  | .tsc => { given with tsc := some value }

/-- Whether a switch is on. -/
def isOn (given : Given) : Switch → Bool
  | .printUnit => given.printUnit
  | .strict => given.strict
  | .verbose => given.verbose
  | .debug => given.debug

/-- A switch turned on. -/
def on (given : Given) : Switch → Given
  | .printUnit => { given with printUnit := true }
  | .strict => { given with strict := true }
  | .verbose => { given with verbose := true }
  | .debug => { given with debug := true }

end Given

/-- Whether a setting names a file or a directory, which an empty text does not. -/
def Setting.isPath : Setting → Bool
  | filename | dir => true
  | name | tsc => false

/-- Gives a value to a setting. -/
def accept (given : Given) (setting : Setting) (value : Text) : Except Refusal Given :=
  if (given.value? setting).isSome then .error .givenTwice
  else if setting.isPath && value.isEmpty then .error .invalidValue
  else .ok (given.withValue value setting)

/-- Turns a switch on. -/
def turnOn (given : Given) (switch : Switch) : Except Refusal Given :=
  if given.isOn switch then .error .givenTwice else .ok (given.on switch)

/-- What has been taken of a command line: what is given, the setting that waits for a value or holds one not looked at
yet, and whether only operands may follow. -/
structure State where
  given : Given
  pending : Option (Setting × Option Text)
  operandsOnly : Bool
deriving DecidableEq, Repr

/-- A state in which nothing is pending. -/
def State.of (given : Given) : State :=
  ⟨given, none, false⟩

/-- What is given once the pending setting is looked at. -/
def State.settled (state : State) : Except Refusal Given :=
  match state.pending with
  | none => .ok state.given
  | some (_, none) => .error .invalidValue
  | some (setting, some value) => accept state.given setting value

/-- A known option: what is pending is looked at first, and a setting without a value begins to wait. -/
def State.option (state : State) (flag : Flag) (value : Option Text) : Except Refusal State :=
  match flag, value with
  | .setting setting, none => state.settled.map fun given => ⟨given, some (setting, none), false⟩
  | .setting setting, some value => do return .of (← accept (← state.settled) setting value)
  | _, some _ => .error .valueNotTaken
  | .switch switch, none => do return .of (← turnOn (← state.settled) switch)
  | .help, none => do let _ ← state.settled; .error .help
  | .version, none => do let _ ← state.settled; .error .version

/-- The value attached to a letter, if anything follows it; an equals sign in front is not part of it. -/
def attached? : Text → Option Text
  | [] => none
  | '=' :: value => some value
  | value => some value

/-- Letters behind one dash. -/
def State.letters : Text → State → Except Refusal State
  | [], state => .ok state
  | c :: rest, state =>
    match ofShort? c with
    | none => .error .unknownArgument
    | some (.setting setting) => state.option (.setting setting) (attached? rest)
    | some flag => do letters rest (← state.option flag none)

/-- A long option, with what follows an equals sign as its value. -/
def State.long (text : Text) (state : State) : Except Refusal State :=
  let name := text.takeWhile (· != '=')
  match ofLong? name with
  | none => .error .unknownArgument
  | some flag => state.option flag (text.drop name.length).tail?

/-- A token that is no option: the value that is waited for, or an operand, of which there are none. -/
def State.plain (token : Text) (state : State) : Except Refusal State :=
  match state.pending with
  | some (setting, none) => .ok { state with pending := some (setting, some token) }
  | _ => .error .unknownArgument

/-- Takes one token. -/
def State.next (state : State) (token : Text) : Except Refusal State :=
  if state.operandsOnly then .error .unknownArgument
  else match token with
    | ['-', '-'] => .ok { state with operandsOnly := true }
    | '-' :: '-' :: text => state.long text
    | ['-'] => state.plain token
    | '-' :: letters => state.letters letters
    | _ => state.plain token

/-- The options of what is given, with the environment and the defaults behind it. -/
def Given.options (given : Given) (environment : Environment) : Except Refusal Options :=
  match given.name, given.filename with
  | some name, some filename =>
    .ok {
      name, filename
      dir := given.dir.getD ['.']
      tsc := (given.tsc <|> environment.compiler).getD "tsc".toList
      printUnit := given.printUnit
      strict := given.strict
      verbose := given.verbose
      debug := given.debug }
  | _, _ => .error .missingArgument

/-- What a command line asks for. -/
def parse (environment : Environment) (tokens : List Text) : Except Refusal Options := do
  let state ← tokens.foldlM State.next (.of .nothing)
  let given ← state.settled
  given.options environment

end CommandLine
end DtsBundle
