import Std.Data.TreeSet
import Interning.Host
import Interning.Report
/-!
The commands: what they are asked, how they can fail, and what they answer. The per-name
commands and `Batch` are functions of their input; `Command.run` adds what they read from the
system and write to it.
-/

set_option autoImplicit false
set_option relaxedAutoImplicit false

namespace Interning

/-! ### Failures -/

/-- Why no worker interns the names of a batch: there are to be none, or the system has refused to
start as many. -/
inductive JobsError where
  | zero
  | notStarted (jobs : UInt64) (cause : Text)
deriving DecidableEq

/-- The text that tells why no worker interns the names of a batch. -/
def JobsError.message : JobsError → Text
  | .zero => "jobs must be > 0".toList
  | .notStarted jobs cause =>
    "cannot start ".toList ++ Numeral.decimal jobs.toNat ++ " workers: ".toList ++ cause

/-- Why a command has no output. -/
inductive CommandError where
  | missingConfig (path : Text)
  | tooLargeToWrite
  | noJobs {cause : JobsError}
  | registry (cause : ConfigError)
  | symbol (fault : Fault)
  | io
  | malformedConfig
deriving DecidableEq

/-- The text that reports a failure. An exhausted registry is reported as the fault itself. -/
def CommandError.message : CommandError → Text
  | .missingConfig path => "Configuration error: no config file at ".toList ++ path
  | .tooLargeToWrite =>
    "Configuration error: cannot encode configuration: ".toList ++
      "out-of-range value for u64 type".toList
  | @noJobs cause => "Validation error: ".toList ++ cause.message
  | .registry cause => "Registry configuration error: ".toList ++ cause.message
  | .symbol (.exhausted last) => (Fault.exhausted last).message
  | .symbol fault => "Symbol error: ".toList ++ fault.message
  | .io => "IO error".toList
  | .malformedConfig => "TOML error: malformed configuration".toList

/-- The document that holds the settings. -/
def Settings.encode (settings : Settings) : Except CommandError Text :=
  match settings.write with
  | some document => .ok document
  | none => .error .tooLargeToWrite

/-! ### Interning names -/

/-- The registry of the settings in effect. -/
def Settings.openRegistry (settings : Settings) (around : Surroundings) :
    Except CommandError Registry :=
  match Registry.create (settings.registryConfig around.machine around.environment) with
  | .ok registry => .ok registry
  | .error cause => .error (.registry cause)

/-- Interns names in order and reports each as it stands. -/
def Registry.report (registry : Registry) : List Text → Except Fault (List SymbolReport)
  | [] => .ok []
  | name :: names =>
    match registry.intern name with
    | (.error fault, _) => .error fault
    | (.ok id, interned) =>
      match interned.displayId id with
      | (.error fault, _) => .error fault
      | (.ok display, after) =>
        match after.report names with
        | .error fault => .error fault
        | .ok reports => .ok (.new id name display :: reports)

/-- The reports of names under the settings in effect. -/
def internNames (settings : Settings) (around : Surroundings) (names : List Text) :
    Except CommandError (List SymbolReport) :=
  match settings.openRegistry around with
  | .error cause => .error cause
  | .ok registry =>
    match registry.report names with
    | .ok reports => .ok reports
    | .error fault => .error (.symbol fault)

/-! ### Batches -/

namespace Batch

/-- The names in a document: its lines, the empty ones left out. -/
def names (document : Text) : List Text :=
  (Text.lines document).filter (!·.isEmpty)

/-- The number of different identifiers in a list. -/
def countDistinct (ids : List SymbolId) : Nat :=
  (Std.TreeSet.ofList ids).size

/-- The summary of a batch in the registry that its workers have left behind, with the records of
names when they are asked for. -/
def summarize (registry : Registry) (names unique jobs : Nat) (dump : Bool) : BatchSummary :=
  let dynamic := registry.records.filter fun record ↦ !record.id.isOperator
  { names := names
    unique := unique
    stats := registry.stats
    jobs := jobs
    symbols := if dump then some (dynamic.map .ofRecord) else none }

end Batch

/-! ### Running -/

/-- A command with its arguments. -/
inductive Command where
  | intern (names : List Text) (format : Option OutputFormat)
  | inspect (names : List Text) (format : Option OutputFormat)
  | classify (names : List Text) (format : Option OutputFormat)
  | batch (file : Text) (jobs : Option UInt64) (format : Option OutputFormat) (dump : Bool)
  | operators (format : Option OutputFormat)
  | config (write : Option Text)

section

variable {m : Type → Type} [Monad m]

/-- Whether a path means the standard input. -/
def isStandardInput (path : Text) : Bool :=
  path.head? = some '-' && Path.names path == [['-']]

/-- Reads the settings that a file holds. -/
def Settings.load (host : Host m) (machine : Machine) (path : Text) :
    m (Except CommandError Settings) := do
  if !(← host.isFile path) then return .error (.missingConfig path)
  match ← host.readFile path with
  | none => return .error .io
  | some document =>
    match Settings.read machine document with
    | some settings => return .ok settings
    | none => return .error .malformedConfig

/-- Writes settings to a file and makes the directories that lead to it. -/
def Settings.save (settings : Settings) (host : Host m) (path : Text) :
    m (Except CommandError Unit) := do
  if !(← host.makeParents path) then return .error .io
  match settings.encode with
  | .error cause => return .error cause
  | .ok document =>
    if ← host.writeFile path document then return .ok () else return .error .io

/-- Reads a document from a file, or from the standard input if the path means that. -/
def Host.readDocument (host : Host m) (file : Text) : m (Option Text) :=
  if isStandardInput file then host.readInput else host.readFile file

/-- Interns the names of a file. The number of jobs is checked before the file is read, the file is
read before the registry is set up, and the workers are started last. -/
def runBatch (host : Host m) (around : Surroundings) (settings : Settings) (file : Text)
    (jobs : Option UInt64) (format : OutputFormat) (dump : Bool) :
    m (Except CommandError Text) := do
  let jobs := jobs.getD settings.jobs
  if jobs = 0 then return .error (@CommandError.noJobs .zero)
  match ← host.readDocument file with
  | none => return .error .io
  | some document =>
    let names := Batch.names document
    match settings.openRegistry around with
    | .error cause => return .error cause
    | .ok registry =>
      match ← host.startWorkers jobs with
      | .error cause => return .error (@CommandError.noJobs (.notStarted jobs cause))
      | .ok schedule =>
        let start ← host.milliseconds
        match registry.internTogether jobs.toNat schedule names with
        | .error fault => return .error (.symbol fault)
        | .ok (ids, after) =>
          let stop ← host.milliseconds
          let summary :=
            Batch.summarize after names.length (Batch.countDistinct ids) jobs.toNat dump
          return .ok (summary.render format (stop - start))

/-- Writes the settings in effect to a file, or answers them as a document. -/
def runConfig (host : Host m) (around : Surroundings) (settings : Settings)
    (write : Option Text) : m (Except CommandError Text) := do
  let effective := settings.effective around.machine around.environment
  match write with
  | some path =>
    match ← effective.save host path with
    | .ok () => return .ok []
    | .error cause => return .error cause
  | none => return effective.encode

/-- The output of a command. -/
def Command.run (host : Host m) (around : Surroundings) (settings : Settings) :
    Command → m (Except CommandError Text)
  | .intern names format =>
    return (internNames settings around names).map (renderSymbols (format.getD settings.format))
  | .inspect names format => return .ok (renderLiterals (format.getD settings.format) names)
  | .classify names format => return .ok (renderScopes (format.getD settings.format) names)
  | .batch file jobs format dump =>
    runBatch host around settings file jobs (format.getD settings.format) dump
  | .operators format => return .ok (renderOperators (format.getD settings.format))
  | .config write => runConfig host around settings write

end

end Interning
