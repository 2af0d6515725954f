import Interning.Command
/-!
The command line: options and a subcommand, whose options may follow its arguments. Two levels
read their words alike, the program's own and the subcommand's, and the options of the program
are options of every subcommand as well. `Invocation.read` answers what the words ask for;
words that no level knows, missing or unfit values, and an option given twice at one level are
rejected. A value in a word of its own, and an argument, is checked late: when the next option or
argument of its level comes, or when its level ends. The words of a subcommand are read before
the level around it ends, so a request for help or the version among them is answered first.
-/

set_option autoImplicit false
set_option relaxedAutoImplicit false

namespace Interning

/-! ### Options -/

/-- An option without a value. -/
inductive Flag where
  | verbose
  | noColor
  | dump
deriving DecidableEq

/-- An option with a value. -/
inductive Setting where
  | config
  | format
  | jobs
  | write
deriving DecidableEq

/-- What a word or a letter means as an option. -/
inductive OptionKind where
  | flag (flag : Flag)
  | setting (setting : Setting)
  | help
  | version

namespace OptionKind

/-- The option with a long name. -/
def ofName? (name : Text) : Option OptionKind :=
  [("verbose", flag .verbose), ("no-color", flag .noColor), ("dump", flag .dump),
    ("config", setting .config), ("format", setting .format), ("jobs", setting .jobs),
    ("write", setting .write), ("help", help), ("version", version)].lookup (String.ofList name)

/-- The option with a letter. -/
def ofLetter? : Char → Option OptionKind
  | 'v' => some (flag .verbose)
  | 'c' => some (setting .config)
  | 'f' => some (setting .format)
  | 'j' => some (setting .jobs)
  | 'w' => some (setting .write)
  | 'h' => some help
  | 'V' => some version
  | _ => none

end OptionKind

/-- Whether a value suits an option. -/
def Setting.accepts (setting : Setting) (value : Text) : Bool :=
  match setting with
  | .config | .write => !value.isEmpty
  | .format => (OutputFormat.ofName? value).isSome
  | .jobs => (Numeral.word? value).isSome

/-! ### Reading the words of a level -/

/-- The options and the number of arguments that a level takes, whether an argument may be empty,
and whether a word that is no option names a subcommand. -/
structure Level where
  flags : List Flag
  settings : List Setting
  maxArguments : Option Nat
  takesEmpty : Bool
  hasCommands : Bool

/-- A word that a level has been given and has not checked. -/
inductive Held where
  | value (setting : Setting) (text : Text)
  | argument (text : Text)

/-- What a level has been given so far. -/
structure Given where
  flags : List Flag
  settings : List (Setting × Text)
  arguments : List Text
  held : Option Held

/-- Where reading the words of a level ends. -/
inductive Reading where
  | finished (given : Given)
  | command (given : Given) (name : Text) (rest : List Text)
  | help
  | version
  | rejected

/-- Where reading a cluster of letters ends: it is finished, or its last letter is an option
whose value is the next word. -/
inductive Cluster where
  | finished (given : Given)
  | awaiting (given : Given) (setting : Setting)
  | help
  | version
  | rejected

namespace Given

/-- Nothing given. -/
def nothing : Given :=
  ⟨[], [], [], none⟩

/-- Adds a flag that the level takes and that is not given yet. -/
def addFlag? (given : Given) (level : Level) (flag : Flag) : Option Given :=
  if level.flags.contains flag && !given.flags.contains flag then
    some { given with flags := flag :: given.flags }
  else none

/-- Adds a value that suits an option that is not given yet. -/
def addSetting? (given : Given) (setting : Setting) (value : Text) : Option Given :=
  if setting.accepts value && (given.settings.lookup setting).isNone then
    some { given with settings := (setting, value) :: given.settings }
  else none

/-- Checks the word that is held, if there is one. -/
def settle? (given : Given) (level : Level) : Option Given :=
  let settled := { given with held := none }
  match given.held with
  | none => some settled
  | some (.value setting text) => settled.addSetting? setting text
  | some (.argument text) =>
    if text.isEmpty && !level.takesEmpty then none
    else some { settled with arguments := settled.arguments ++ [text] }

/-- Holds an argument for a level that takes one more, after the word that was held before. -/
def holdArgument? (given : Given) (level : Level) (text : Text) : Option Given := do
  let given ← given.settle? level
  if level.maxArguments.all fun limit ↦ given.arguments.length < limit then
    some { given with held := some (.argument text) }
  else none

/-- The value given to an option. -/
def value? (given : Given) (setting : Setting) : Option Text :=
  given.settings.lookup setting

end Given

/-- Reads the letters after a single hyphen. An option with a value takes the rest of the
cluster, after an equals sign if there is one. -/
def readCluster (level : Level) (given : Given) : Text → Cluster
  | [] => .finished given
  | letter :: rest =>
    match OptionKind.ofLetter? letter with
    | none => .rejected
    | some .help => .help
    | some .version => .version
    | some (.flag flag) =>
      match given.addFlag? level flag with
      | some given => readCluster level given rest
      | none => .rejected
    | some (.setting setting) =>
      if !level.settings.contains setting then .rejected
      else if rest.isEmpty then .awaiting given setting
      else
        match given.addSetting? setting (Text.skip '=' rest) with
        | some given => .finished given
        | none => .rejected

/-- Reads the name after two hyphens, with the value after an equals sign if there is one. -/
def readLong (level : Level) (given : Given) (word : Text) : Cluster :=
  let (name, rest) := word.span (· != '=')
  match OptionKind.ofName? name with
  | none => .rejected
  | some .help => if rest.isEmpty then .help else .rejected
  | some .version => if rest.isEmpty then .version else .rejected
  | some (.flag flag) =>
    if !rest.isEmpty then .rejected
    else
      match given.addFlag? level flag with
      | some given => .finished given
      | none => .rejected
  | some (.setting setting) =>
    if !level.settings.contains setting then .rejected
    else
      match rest with
      | [] => .awaiting given setting
      | _ :: value =>
        match given.addSetting? setting value with
        | some given => .finished given
        | none => .rejected

/-- Whether a word can be no value because it looks like an option. A lone hyphen can. -/
def looksLikeOption (word : Text) : Bool :=
  match word with
  | '-' :: _ :: _ => true
  | _ => false

/-- Ends a level that has been given its last word. -/
def finish (level : Level) (given : Option Given) : Reading :=
  match given.bind (·.settle? level) with
  | some given => .finished given
  | none => .rejected

/-- Reads the words of a level. After two hyphens every word is an argument. -/
def readWords (level : Level) (given : Given) : List Text → Reading
  | [] => finish level (some given)
  | word :: rest =>
    if word = ['-', '-'] then
      finish level (rest.foldlM (fun given argument ↦ given.holdArgument? level argument) given)
    else if looksLikeOption word then
      match given.settle? level with
      | none => .rejected
      | some given =>
        let cluster := match word with
          | '-' :: '-' :: name => readLong level given name
          | _ => readCluster level given word.tail
        match cluster with
        | .finished given => readWords level given rest
        | .help => .help
        | .version => .version
        | .rejected => .rejected
        | .awaiting given setting =>
          match rest with
          | [] => .rejected
          | value :: rest =>
            if looksLikeOption value then .rejected
            else readWords level { given with held := some (.value setting value) } rest
    else if level.hasCommands then .command given word rest
    else
      match given.holdArgument? level word with
      | some given => readWords level given rest
      | none => .rejected

/-! ### Subcommands -/

/-- The subcommands. -/
inductive Subcommand where
  | intern
  | inspect
  | classify
  | batch
  | operators
  | config
deriving DecidableEq

namespace Subcommand

/-- Every subcommand with its name. -/
def named : List (String × Subcommand) :=
  [("intern", intern), ("inspect", inspect), ("classify", classify), ("batch", batch),
    ("ops", operators), ("config", config)]

/-- The options and arguments of a subcommand. -/
def level : Subcommand → Level
  | intern | inspect | classify => ⟨[.verbose, .noColor], [.config, .format], none, true, false⟩
  | batch => ⟨[.verbose, .noColor, .dump], [.config, .format, .jobs], some 1, false, false⟩
  | operators => ⟨[.verbose, .noColor], [.config, .format], some 0, false, false⟩
  | config => ⟨[.verbose, .noColor], [.config, .write], some 0, false, false⟩

/-- The command that a subcommand and its words make, unless an argument is missing. -/
def command? (subcommand : Subcommand) (given : Given) : Option Command :=
  let format := (given.value? .format).bind OutputFormat.ofName?
  let names := given.arguments
  match subcommand with
  | intern => if names.isEmpty then none else some (.intern names format)
  | inspect => if names.isEmpty then none else some (.inspect names format)
  | classify => if names.isEmpty then none else some (.classify names format)
  | batch =>
    match names with
    | [] => none
    | file :: _ =>
      let jobs := (given.value? .jobs).bind Numeral.word?
      some (.batch file jobs format (given.flags.contains .dump))
  | operators => some (.operators format)
  | config => some (.config (given.value? .write))

end Subcommand

/-- What a run is asked to do. -/
structure Invocation where
  configFile : Option Text
  command : Command

/-- What the words of a command line ask for. -/
inductive Request where
  | run (invocation : Invocation)
  | help
  | version (program : Text)
  | rejected

namespace Invocation

/-- The level of the program itself. -/
def programLevel : Level :=
  ⟨[.verbose, .noColor], [.config], some 0, false, true⟩

/-- Whether a truth value in the environment can be read. -/
def isFlagValue (value : Text) : Bool :=
  value == ['t', 'r', 'u', 'e'] || value == ['f', 'a', 'l', 's', 'e']

/-- Whether the environment gives usable values to the options that a level was not given. -/
def environmentSuits (environment : Environment) (given : Given) : Bool :=
  (given.flags.contains .verbose || (environment.lookup "RUBT_VERBOSE").all isFlagValue) &&
    (given.flags.contains .noColor || (environment.lookup "RUBT_NO_COLOR").all isFlagValue) &&
    ((given.value? .config).isSome || (environment.lookup "RUBT_CONFIG").all (!·.isEmpty))

/-- The invocation that both levels make together. The subcommand's configuration file stands
before the program's, and both before the environment's. -/
def ofLevels (environment : Environment) (program inner : Given) (subcommand : Subcommand) :
    Request :=
  match subcommand.command? inner with
  | none => .rejected
  | some command =>
    if environmentSuits environment program && environmentSuits environment inner then
      let configFile := (inner.value? .config).or
        ((program.value? .config).or (environment.lookup "RUBT_CONFIG"))
      .run ⟨configFile, command⟩
    else .rejected

/-- What is asked of the help: the program's, or a subcommand's. -/
def helpOn (words : List Text) : Request :=
  match words with
  | [] => .help
  | [word] =>
    let name := String.ofList word
    if name = "help" || (Subcommand.named.lookup name).isSome then .help else .rejected
  | _ => .rejected

/-- The request that the words of a command line make. -/
def read (environment : Environment) (words : List Text) : Request :=
  match readWords programLevel .nothing words with
  | .help => .help
  | .version => .version "rubt".toList
  | .rejected => .rejected
  | .finished _ => .rejected
  | .command program word rest =>
    let name := String.ofList word
    if name = "help" then helpOn rest
    else
      match Subcommand.named.lookup name with
      | none => .rejected
      | some subcommand =>
        match readWords subcommand.level .nothing rest with
        | .help => .help
        | .version => .version ("rubt-".toList ++ word)
        | .rejected => .rejected
        | .command .. => .rejected
        | .finished inner =>
          match program.settle? programLevel with
          | some program => ofLevels environment program inner subcommand
          | none => .rejected

end Invocation

/-! ### Running -/

/-- What a run says besides its output: an error that it reports, or the fault that ended it. -/
inductive Diagnostic where
  | error (message : Text)
  | fault (message : Text)

/-- What a run leaves behind besides files: an exit code, the output and a diagnostic. -/
structure Outcome where
  code : UInt32
  output : Text
  diagnostic : Option Diagnostic

/-- The version of the program. -/
def programVersion : Text :=
  "0.1.0".toList

/-- What is printed when help is asked for. -/
def usage : Text :=
  ("Intern, classify and print symbols\n\n" ++
    "Usage: rubt [OPTIONS] <COMMAND>\n\n" ++
    "Commands:\n" ++
    "  intern <NAMES>...    Intern names and print id, scope and literal of each\n" ++
    "  inspect <NAMES>...   Print the symbol literal of each name\n" ++
    "  classify <NAMES>...  Print the scope of each name\n" ++
    "  batch <FILE>         Intern a file of names and print statistics\n" ++
    "  ops                  List the operators and their identifiers\n" ++
    "  config               Print the configuration in effect\n\n" ++
    "Options:\n" ++
    "  -v, --verbose        Enable verbose output\n" ++
    "  -c, --config <PATH>  Path to the configuration file\n" ++
    "      --no-color       Disable color output\n" ++
    "  -f, --format <FORM>  Output format: text or json\n" ++
    "  -j, --jobs <JOBS>    Number of jobs of batch\n" ++
    "      --dump           Print every symbol after the statistics of batch\n" ++
    "  -w, --write <PATH>   Write the configuration to a file\n" ++
    "  -h, --help           Print help\n" ++
    "  -V, --version        Print version\n").toList

/-- The file names where settings are looked for, in order. -/
def Surroundings.configFiles (around : Surroundings) : List Text :=
  let name := "rubt.toml".toList
  name :: (around.home.toList.map (· ++ "/.config/rubt/".toList ++ name) ++
    around.configHome.toList.map (· ++ "/rubt/".toList ++ name))

section

variable {m : Type → Type} [Monad m]

/-- The first of some paths that is a file. -/
def findFile (host : Host m) : List Text → m (Option Text)
  | [] => return none
  | path :: paths => do
    if ← host.isFile path then return some path else findFile host paths

/-- Reads the settings of an invocation: the file it names, or the first one found, or none. -/
def Invocation.settings (host : Host m) (around : Surroundings) (invocation : Invocation) :
    m (Except CommandError Settings) := do
  let found ← match invocation.configFile with
    | some path => pure (some path)
    | none => findFile host around.configFiles
  match found with
  | some path => Settings.load host around.machine path
  | none => return .ok (Settings.default around.machine)

/-- Performs an invocation. Whatever is wrong with the settings is one error, and a registry
that is exhausted ends the run with its fault. -/
def Invocation.perform (host : Host m) (around : Surroundings) (invocation : Invocation) :
    m Outcome := do
  match ← invocation.settings host around with
  | .error _ => return ⟨1, [], some (.error "failed to load configuration".toList)⟩
  | .ok settings =>
    match ← invocation.command.run host around settings with
    | .ok output => return ⟨0, output, none⟩
    | .error (.symbol (.exhausted last)) =>
      return ⟨101, [], some (.fault (Fault.exhausted last).message)⟩
    | .error cause => return ⟨1, [], some (.error cause.message)⟩

/-- Runs a command line. -/
def runCommandLine (host : Host m) (around : Surroundings) (words : List Text) : m Outcome :=
  match Invocation.read around.environment words with
  | .run invocation => invocation.perform host around
  | .help => return ⟨0, usage, none⟩
  | .version program => return ⟨0, program ++ ' ' :: programVersion ++ ['\n'], none⟩
  | .rejected => return ⟨2, [], none⟩

end

end Interning
