import Interning.RegistryConfig
import Interning.Toml.Document
/-!
The settings of the command line, as a configuration file holds them. A file may leave out any
key. `Settings.read` reads a file, `Settings.write` writes one, and `Settings.effective` fills in
every registry key: the file's own value, else the environment's, else the default.

A library reads and writes the documents, and three definitions say what is assumed of it.
`Toml.Document.read` says which texts are documents and which values they hold.
`Settings.ofEntries?` says which values become settings: a value of the wrong kind is refused, a key
of another name passed over, and a section may be a table, an array of its values in order, or a
date, and a format a word or the only key of a table. `Settings.write` says how settings are set
down: the keys in the order of their declaration with one on each line, those without a value left
out, the section behind an empty line, and no number that a signed word of 64 bits cannot hold.
-/

set_option autoImplicit false
set_option relaxedAutoImplicit false

namespace Interning

/-- The form of a command's output. -/
inductive OutputFormat where
  | text
  | json
deriving DecidableEq

namespace OutputFormat

/-- The word that names a format. -/
def name : OutputFormat → Text
  | .text => ['t', 'e', 'x', 't']
  | .json => ['j', 's', 'o', 'n']

/-- The format that a word names. -/
def ofName? (word : Text) : Option OutputFormat :=
  if word = OutputFormat.text.name then some .text
  else if word = OutputFormat.json.name then some .json
  else none

theorem ofName?_name (format : OutputFormat) : ofName? format.name = some format := by
  cases format <;> decide

end OutputFormat

/-- The registry keys of a file; a key that is not set keeps the environment's value. -/
structure RegistrySection where
  sequenceFloor : Option UInt64
  initialCapacity : Option UInt64
  shardAmount : Option UInt64
  statsEnabled : Option Bool
deriving DecidableEq

namespace RegistrySection

/-- The section that sets nothing. -/
def empty : RegistrySection :=
  ⟨none, none, none, none⟩

/-- The section that sets every key to the value of a setup. -/
def ofConfig (config : RegistryConfig) : RegistrySection :=
  ⟨some config.sequenceFloor, some config.initialCapacity, some config.shardAmount,
    some config.statsEnabled⟩

/-- A setup with the keys of a section in place of its own. -/
def applyTo (registry : RegistrySection) (base : RegistryConfig) : RegistryConfig :=
  { sequenceFloor := registry.sequenceFloor.getD base.sequenceFloor
    initialCapacity := registry.initialCapacity.getD base.initialCapacity
    shardAmount := registry.shardAmount.getD base.shardAmount
    statsEnabled := registry.statsEnabled.getD base.statsEnabled }

end RegistrySection

/-- The settings of the command line. -/
structure Settings where
  verbose : Bool
  format : OutputFormat
  jobs : UInt64
  registry : RegistrySection
deriving DecidableEq

namespace Settings

/-- The settings where no file chooses any. -/
def default (machine : Machine) : Settings :=
  ⟨false, .text, UInt64.ofNat machine.threads, .empty⟩

/-- The setup of a registry under these settings. -/
def registryConfig (settings : Settings) (machine : Machine) (environment : Environment) :
    RegistryConfig :=
  settings.registry.applyTo (.ofEnvironment machine environment)

/-- The settings with every registry key set to the value in effect. -/
def effective (settings : Settings) (machine : Machine) (environment : Environment) : Settings :=
  { settings with registry := .ofConfig (settings.registryConfig machine environment) }

/-! ### Reading -/

/-- The truth value that a value is. -/
def flag? : Toml.Value → Option Bool
  | .boolean value => some value
  | _ => none

/-- The word that a value is: an integer that is not negative. -/
def word? : Toml.Value → Option UInt64
  | .integer (.ofNat n) => some (UInt64.ofNat n)
  | _ => none

/-- Whether a value is a table or an array without contents. -/
def isEmptyValue : Toml.Value → Bool
  | .array items => items.isEmpty
  | .table _ entries => entries.isEmpty
  | .tables items => items.isEmpty
  | _ => false

/-- The output format that a value names, as a word or as the only key of a table, whose value
must be empty. -/
def format? : Toml.Value → Option OutputFormat
  | .string word => OutputFormat.ofName? word
  | .table _ [(name, value)] => if isEmptyValue value then OutputFormat.ofName? name else none
  | _ => none

/-- A value that may be missing, in which case the default stands for it. -/
def orDefault {α : Type} (value : Option Toml.Value) (read : Toml.Value → Option α) (base : α) :
    Option α :=
  match value with
  | some value => read value
  | none => some base

/-- A registry section from the values of its keys. -/
def sectionOf? (floor capacity shards stats : Option Toml.Value) : Option RegistrySection := do
  let floor ← orDefault floor (fun value ↦ (word? value).map some) none
  let capacity ← orDefault capacity (fun value ↦ (word? value).map some) none
  let shards ← orDefault shards (fun value ↦ (word? value).map some) none
  let stats ← orDefault stats (fun value ↦ (flag? value).map some) none
  return ⟨floor, capacity, shards, stats⟩

/-- The registry section that a value is: a table, an array that gives the keys in order, or a
date or time, which has no keys and sets none. -/
def registry? : Toml.Value → Option RegistrySection
  | .table _ entries =>
    sectionOf? (entries.lookup "sequence_floor".toList)
      (entries.lookup "initial_capacity".toList) (entries.lookup "shard_amount".toList)
      (entries.lookup "stats_enabled".toList)
  | .array items => sectionOf? items[0]? items[1]? items[2]? items[3]?
  | .dateTime _ => some .empty
  | _ => none

/-- The settings that a root table holds; keys of other names are passed over. -/
def ofEntries? (machine : Machine) (entries : Toml.Entries) : Option Settings := do
  let base := default machine
  let verbose ← orDefault (entries.lookup "verbose".toList) flag? base.verbose
  let format ← orDefault (entries.lookup "format".toList) format? base.format
  let jobs ← orDefault (entries.lookup "jobs".toList) word? base.jobs
  let registry ← orDefault (entries.lookup "registry".toList) registry? base.registry
  return ⟨verbose, format, jobs, registry⟩

/-- The settings that a document holds, unless it is malformed or a value is of a wrong kind. That
documents are read so is assumed of the library that reads them. -/
def read (machine : Machine) (document : Text) : Option Settings :=
  (Toml.Document.read document).bind (ofEntries? machine)

/-! ### Writing -/

/-- A line that gives a key its value. -/
def assignmentLine (key : String) (value : Text) : Text :=
  key.toList ++ [' ', '=', ' '] ++ value ++ ['\n']

/-- The word for a truth value. -/
def flagText (value : Bool) : Text :=
  if value then ['t', 'r', 'u', 'e'] else ['f', 'a', 'l', 's', 'e']

/-- The line of a number; a document's integers are signed, so a larger number has none. -/
def wordLine (key : String) (value : UInt64) : Option Text :=
  if value.toNat < Nat.pow 2 63 then
    some (assignmentLine key (Numeral.decimal value.toNat))
  else none

/-- The line of a number that may be unset, and no line when it is. -/
def wordLine? (key : String) : Option UInt64 → Option Text
  | some value => wordLine key value
  | none => some []

/-- The line of a truth value that may be unset, and no line when it is. -/
def flagLine? (key : String) : Option Bool → Text
  | some value => assignmentLine key (flagText value)
  | none => []

/-- The document that holds the settings, unless a number is too large for it. That settings are set
down in this form is assumed of the library that writes them. -/
def write (settings : Settings) : Option Text := do
  let jobs ← wordLine "jobs" settings.jobs
  let floor ← wordLine? "sequence_floor" settings.registry.sequenceFloor
  let capacity ← wordLine? "initial_capacity" settings.registry.initialCapacity
  let shards ← wordLine? "shard_amount" settings.registry.shardAmount
  return assignmentLine "verbose" (flagText settings.verbose) ++
    assignmentLine "format" ('"' :: settings.format.name ++ ['"']) ++ jobs ++
    "\n[registry]\n".toList ++ floor ++ capacity ++ shards ++
    flagLine? "stats_enabled" settings.registry.statsEnabled

end Settings

end Interning
