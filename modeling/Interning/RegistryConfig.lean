import Interning.SymbolId
import Interning.Unicode.Blank
/-!
How a registry is set up: where its sequence numbers start, how much room it asks for, and
whether it counts. `RegistryConfig.validate` refuses a setup with the first cause that applies;
`RegistryConfig.ofEnvironment` reads four variables over the machine's defaults and passes over
the values that it cannot read.
-/

set_option autoImplicit false
set_option relaxedAutoImplicit false

namespace Interning

/-- What the defaults depend on: the number of hardware threads. -/
structure Machine where
  threads : Nat

/-- Environment variables with their values. -/
abbrev Environment := List (String × Text)

/-- The setup of a registry. The capacity and the number of shards lay out the memory of the maps:
they are checked, shown and written, but no operation of the table depends on them. -/
structure RegistryConfig where
  sequenceFloor : UInt64
  initialCapacity : UInt64
  shardAmount : UInt64
  statsEnabled : Bool
deriving DecidableEq

/-- Why a setup is refused. -/
inductive ConfigError where
  | floorTooLow (floor : UInt64)
  | floorTooHigh (floor : UInt64)
  | invalidShardAmount (amount : UInt64)
deriving DecidableEq

namespace RegistryConfig

/-- The largest sequence floor: it leaves one sequence number to give out. -/
def maxSequenceFloor : UInt64 := SymbolId.maxSequence - 1

/-- The default number of shards: the power of two at or above four times the threads. -/
def defaultShards (machine : Machine) : UInt64 :=
  UInt64.ofNat (max 2 (4 * machine.threads).nextPowerOfTwo)

/-- The setup where nothing is chosen. -/
def default (machine : Machine) : RegistryConfig :=
  ⟨SymbolId.reservedLimit, 1024, defaultShards machine, true⟩

/-- Whether a word is a power of two. -/
def isPowerOfTwo (n : UInt64) : Bool :=
  Nat.pow 2 n.toNat.log2 == n.toNat

/-- Refuses a floor among the reserved identifiers, a floor that leaves no sequence number, and
a number of shards that is no power of two above one. -/
def validate (config : RegistryConfig) : Except ConfigError Unit :=
  if config.sequenceFloor < SymbolId.reservedLimit then
    .error (.floorTooLow config.sequenceFloor)
  else if maxSequenceFloor < config.sequenceFloor then
    .error (.floorTooHigh config.sequenceFloor)
  else if config.shardAmount < 2 || !isPowerOfTwo config.shardAmount then
    .error (.invalidShardAmount config.shardAmount)
  else .ok ()

/-- The word that a variable holds, white space at its ends apart. -/
def wordVariable (environment : Environment) (name : String) : Option UInt64 :=
  (environment.lookup name).bind fun value ↦ Numeral.word? value.trim

/-- The truth value that a variable holds, white space at its ends and case apart. -/
def flagVariable (environment : Environment) (name : String) : Option Bool :=
  (environment.lookup name).bind fun value ↦
    let word := value.trim.map Char.toLower
    if word = ['1'] || word = "true".toList then some true
    else if word = ['0'] || word = "false".toList then some false
    else none

/-- The setup that the environment asks for; a variable that cannot be read leaves the
default. -/
def ofEnvironment (machine : Machine) (environment : Environment) : RegistryConfig :=
  let base := default machine
  { sequenceFloor :=
      (wordVariable environment "RUBRIC_SYM_SEQUENCE_FLOOR").getD base.sequenceFloor
    initialCapacity :=
      (wordVariable environment "RUBRIC_SYM_CAPACITY").getD base.initialCapacity
    shardAmount := (wordVariable environment "RUBRIC_SYM_SHARDS").getD base.shardAmount
    statsEnabled := (flagVariable environment "RUBRIC_SYM_STATS").getD base.statsEnabled }

/-- The text that lists a setup. -/
def describe (config : RegistryConfig) : Text :=
  "RegistryConfig \x7b sequence_floor: ".toList ++ Numeral.decimal config.sequenceFloor.toNat ++
    ", initial_capacity: ".toList ++ Numeral.decimal config.initialCapacity.toNat ++
    ", shard_amount: ".toList ++ Numeral.decimal config.shardAmount.toNat ++
    ", stats_enabled: ".toList ++ (toString config.statsEnabled).toList ++ " \x7d".toList

end RegistryConfig

/-- The text that reports why a setup is refused. -/
def ConfigError.message : ConfigError → Text
  | .floorTooLow floor =>
    "Invalid sequence floor ".toList ++ Numeral.decimal floor.toNat ++
      ": must be greater than ".toList ++ Numeral.decimal (SymbolId.reservedLimit.toNat - 1)
  | .floorTooHigh floor =>
    "Invalid sequence floor ".toList ++ Numeral.decimal floor.toNat ++
      ": must be below ".toList ++ Numeral.decimal RegistryConfig.maxSequenceFloor.toNat
  | .invalidShardAmount amount =>
    "Invalid shard amount ".toList ++ Numeral.decimal amount.toNat ++
      ": must be a power of two greater than 1".toList

end Interning
