import Interning.Command
import Interning.Proofs.TomlStatements

/-!
# Settings are read back from their document

The document of settings has three assignments, the header of the registry's table, and an
assignment for every registry key that is set (`Settings.IsDocument`). Such lines are read as the
entries that they assign, and the entries as the settings again: a key that is not set has no line,
and a reader that finds no value leaves the key unset.

Numbers are the only values that may not be written. A document holds signed integers, so settings
have a document exactly if their numbers are below `2 ^ 63` (`Settings.Fits`).
-/

set_option autoImplicit false
set_option relaxedAutoImplicit false

namespace Interning

namespace Settings

open Toml (Value Entries Statement Reads Writes IsBareKey assignmentOf)

variable {key : String} {line : Text}

/-! ### What a document holds -/

/-- The numbers that settings hold. -/
def words (settings : Settings) : List UInt64 :=
  settings.jobs :: (settings.registry.sequenceFloor.toList ++
    settings.registry.initialCapacity.toList ++ settings.registry.shardAmount.toList)

/-- The numbers that settings hold are numbers of a document. -/
def Fits (settings : Settings) : Prop :=
  ∀ word ∈ settings.words, word.toNat < Nat.pow 2 63

theorem fits_iff {settings : Settings} :
    settings.Fits ↔ settings.jobs.toNat < Nat.pow 2 63 ∧
      (∀ word ∈ settings.registry.sequenceFloor, word.toNat < Nat.pow 2 63) ∧
      (∀ word ∈ settings.registry.initialCapacity, word.toNat < Nat.pow 2 63) ∧
      ∀ word ∈ settings.registry.shardAmount, word.toNat < Nat.pow 2 63 := by
  simp only [Fits, words, List.forall_mem_cons, List.forall_mem_append, Option.mem_toList,
    Option.mem_def, and_assoc]

/-- A word as a value of a document. -/
def wordValue (word : UInt64) : Value :=
  .integer word.toNat

/-- The entry of a key that may be unset. -/
def optionalEntries {α : Type} (key : String) (valueOf : α → Value) (value : Option α) : Entries :=
  (value.map fun value ↦ (key.toList, valueOf value)).toList

/-- The entries of the registry's table. -/
def registryEntries (registry : RegistrySection) : Entries :=
  optionalEntries "sequence_floor" wordValue registry.sequenceFloor ++
    optionalEntries "initial_capacity" wordValue registry.initialCapacity ++
    optionalEntries "shard_amount" wordValue registry.shardAmount ++
    optionalEntries "stats_enabled" Value.boolean registry.statsEnabled

/-- The entries before the registry's table. -/
def ownEntries (settings : Settings) : Entries :=
  [("verbose".toList, .boolean settings.verbose), ("format".toList, .string settings.format.name),
    ("jobs".toList, wordValue settings.jobs)]

/-! ### Writing -/

theorem writes_assignmentLine (hkey : IsBareKey key.toList) {text : Text} {value : Value}
    (hreads : Reads text value) :
    Writes (assignmentLine key text) [assignmentOf (key.toList, value)] :=
  Toml.writes_assignment hkey hreads

theorem reads_flagText (flag : Bool) : Reads (flagText flag) (.boolean flag) :=
  Toml.reads_flag flag

theorem writes_wordLine (hkey : IsBareKey key.toList) {word : UInt64}
    (hline : wordLine key word = some line) :
    word.toNat < Nat.pow 2 63 ∧ Writes line [assignmentOf (key.toList, wordValue word)] := by
  unfold wordLine at hline
  split at hline
  · next hword =>
    obtain rfl := Option.some.inj hline
    exact ⟨hword, writes_assignmentLine hkey (Toml.reads_decimal hword)⟩
  · cases hline

theorem writes_wordLine? (hkey : IsBareKey key.toList) {value : Option UInt64}
    (hline : wordLine? key value = some line) :
    (∀ word ∈ value, word.toNat < Nat.pow 2 63) ∧
      Writes line ((optionalEntries key wordValue value).map assignmentOf) := by
  cases value with
  | none =>
    obtain rfl := Option.some.inj hline
    exact ⟨by simp, Toml.writes_nil⟩
  | some word =>
    obtain ⟨hword, hwrites⟩ := writes_wordLine hkey hline
    exact ⟨by simpa using hword, hwrites⟩

theorem writes_flagLine? (hkey : IsBareKey key.toList) (value : Option Bool) :
    Writes (flagLine? key value) ((optionalEntries key Value.boolean value).map assignmentOf) := by
  cases value with
  | none => exact Toml.writes_nil
  | some flag => exact writes_assignmentLine hkey (reads_flagText flag)

theorem reads_format (format : OutputFormat) :
    Reads ('"' :: format.name ++ ['"']) (.string format.name) := by
  cases format <;> exact Toml.reads_string (by decide) (by decide)

/-- A document holds the statements that define the entries of settings, whose numbers fit. -/
structure IsDocument (settings : Settings) (document : Text) : Prop where
  fits : settings.Fits
  skip_eq : Text.skip '\ufeff' document = document
  writes : Writes document (settings.ownEntries.map assignmentOf ++
    .header ⟨[], "registry".toList⟩ :: (registryEntries settings.registry).map assignmentOf)

theorem isDocument_of_write {settings : Settings} {document : Text}
    (hwrite : settings.write = some document) : settings.IsDocument document := by
  unfold write at hwrite
  simp only [Option.bind_eq_bind, Option.bind_eq_some_iff] at hwrite
  obtain ⟨jobs, hjobs, floor, hfloor, capacity, hcapacity, shards, hshards, hdocument⟩ := hwrite
  obtain ⟨hjobsFit, hjobsWrites⟩ := writes_wordLine (by decide) hjobs
  obtain ⟨hfloorFit, hfloorWrites⟩ := writes_wordLine? (by decide) hfloor
  obtain ⟨hcapacityFit, hcapacityWrites⟩ := writes_wordLine? (by decide) hcapacity
  obtain ⟨hshardsFit, hshardsWrites⟩ := writes_wordLine? (by decide) hshards
  obtain rfl := Option.some.inj hdocument
  have hverbose : Writes (assignmentLine "verbose" (flagText settings.verbose)) _ :=
    writes_assignmentLine (by decide) (reads_flagText settings.verbose)
  have hformat : Writes (assignmentLine "format" ('"' :: settings.format.name ++ ['"'])) _ :=
    writes_assignmentLine (by decide) (reads_format settings.format)
  have hheader : Writes (['\n'] ++ ('[' :: "registry".toList ++ [']', '\n'])) _ :=
    Toml.writes_blank.append (Toml.writes_header (by decide))
  have hstats : Writes (flagLine? "stats_enabled" settings.registry.statsEnabled) _ :=
    writes_flagLine? (by decide) settings.registry.statsEnabled
  have hlines := ((((((hverbose.append hformat).append hjobsWrites).append hheader).append
    hfloorWrites).append hcapacityWrites).append hshardsWrites).append hstats
  constructor
  case fits => exact fits_iff.mpr ⟨hjobsFit, hfloorFit, hcapacityFit, hshardsFit⟩
  case skip_eq => simp [assignmentLine, Text.skip]
  case writes => simpa [ownEntries, registryEntries] using hlines

/-- Settings whose numbers fit have a document. -/
theorem exists_write_of_fits {settings : Settings} (hfits : settings.Fits) :
    ∃ document, settings.write = some document := by
  have hline (key : String) {value : Option UInt64}
      (hvalue : ∀ word ∈ value, word.toNat < Nat.pow 2 63) :
      ∃ line, wordLine? key value = some line := by
    cases value with
    | none => exact ⟨[], rfl⟩
    | some word => exact ⟨_, if_pos (hvalue word rfl)⟩
  obtain ⟨hjobs, hfloor, hcapacity, hshards⟩ := fits_iff.mp hfits
  obtain ⟨floor, hfloor⟩ := hline "sequence_floor" hfloor
  obtain ⟨capacity, hcapacity⟩ := hline "initial_capacity" hcapacity
  obtain ⟨shards, hshards⟩ := hline "shard_amount" hshards
  rw [write, wordLine, if_pos hjobs, hfloor, hcapacity, hshards]
  exact ⟨_, rfl⟩

/-! ### Reading -/

/-- What is looked up among the entries of keys that may be unset. -/
theorem lookup_optionalEntries {α : Type} (key : String) (valueOf : α → Value) (value : Option α)
    (name : Text) : (optionalEntries key valueOf value).lookup name =
      if name = key.toList then value.map valueOf else none := by
  cases value with
  | none => simp [optionalEntries]
  | some value =>
    by_cases hname : name = key.toList
    · simp [optionalEntries, hname]
    · have hother : (name == key.toList) = false := beq_false_of_ne hname
      simp [optionalEntries, List.lookup_cons, hname, hother]

theorem word?_wordValue (word : UInt64) : word? (wordValue word) = some word := by
  have hword : word? (wordValue word) = some (UInt64.ofNat word.toNat) := rfl
  rw [hword, UInt64.ofNat_toNat]

/-- A key that may be unset is read as it is. -/
theorem orDefault_map {α : Type} {valueOf : α → Value} {read : Value → Option α}
    (hread : ∀ value, read (valueOf value) = some value) (value : Option α) :
    orDefault (value.map valueOf) (fun value ↦ (read value).map some) none = some value := by
  cases value with
  | none => rfl
  | some value => exact congrArg (Option.map some) (hread value)

theorem registry?_registryEntries (registry : RegistrySection) :
    registry? (.table .header (registryEntries registry)) = some registry := by
  have hsection : registry? (.table .header (registryEntries registry)) =
      sectionOf? (registry.sequenceFloor.map wordValue) (registry.initialCapacity.map wordValue)
        (registry.shardAmount.map wordValue) (registry.statsEnabled.map Value.boolean) := by
    simp [registryEntries, registry?, List.lookup_append, lookup_optionalEntries]
  have hflag : ∀ flag, flag? (.boolean flag) = some flag := fun _ ↦ rfl
  rw [hsection, sectionOf?, orDefault_map word?_wordValue, orDefault_map word?_wordValue,
    orDefault_map word?_wordValue, orDefault_map hflag]
  rfl

/-- The settings are what their entries say, whatever the defaults are. -/
theorem ofEntries?_ownEntries (machine : Machine) (settings : Settings) :
    ofEntries? machine (settings.ownEntries ++
      [("registry".toList, .table .header (registryEntries settings.registry))]) =
        some settings := by
  have hverbose : flag? (.boolean settings.verbose) = some settings.verbose := rfl
  have hformat : format? (.string settings.format.name) = some settings.format :=
    OutputFormat.ofName?_name settings.format
  simp [ofEntries?, ownEntries, List.lookup_cons, orDefault, hverbose, hformat,
    word?_wordValue, registry?_registryEntries]

theorem map_fst_sublist {α : Type} (key : String) (valueOf : α → Value) (value : Option α) :
    ((optionalEntries key valueOf value).map Prod.fst).Sublist [key.toList] := by
  cases value with
  | none => exact List.nil_sublist _
  | some value => exact .refl _

/-- No key has two entries. -/
theorem nodup_registryEntries (registry : RegistrySection) :
    ((registryEntries registry).map Prod.fst).Nodup := by
  have hkeys : ["sequence_floor".toList, "initial_capacity".toList, "shard_amount".toList,
      "stats_enabled".toList].Nodup := by
    decide
  rw [registryEntries, List.map_append, List.map_append, List.map_append]
  exact hkeys.sublist ((((map_fst_sublist _ _ _).append (map_fst_sublist _ _ _)).append
    (map_fst_sublist _ _ _)).append (map_fst_sublist _ _ _))

/-- A document of settings is read as these settings. -/
theorem IsDocument.read_eq {settings : Settings} {document : Text}
    (h : settings.IsDocument document) (machine : Machine) :
    Settings.read machine document = some settings := by
  have hkeys : settings.ownEntries.map Prod.fst =
      ["verbose".toList, "format".toList, "jobs".toList] := rfl
  have hown : (settings.ownEntries.map Prod.fst).Nodup := by
    rw [hkeys]
    decide
  have hregistry : "registry".toList ∉ settings.ownEntries.map Prod.fst := by
    rw [hkeys]
    decide
  rw [read, h.writes.read_eq h.skip_eq hown hregistry (nodup_registryEntries settings.registry),
    Option.bind_some, ofEntries?_ownEntries]

/-- Settings have a document exactly if their numbers fit, and are read back from it. -/
theorem encode_read (machine : Machine) (settings : Settings) :
    (settings.Fits → ∃ document, settings.encode = .ok document ∧
        Settings.read machine document = some settings) ∧
      (¬ settings.Fits → ∃ cause, settings.encode = .error cause ∧
        cause.message = "Configuration error: cannot encode configuration: ".toList ++
          "out-of-range value for u64 type".toList) := by
  constructor
  · intro hfits
    obtain ⟨document, hwrite⟩ := exists_write_of_fits hfits
    refine ⟨document, ?_, (isDocument_of_write hwrite).read_eq machine⟩
    rw [encode, hwrite]
  · intro hfits
    have hwrite : settings.write = none :=
      Option.eq_none_iff_forall_ne_some.mpr fun document hdocument ↦
        hfits (isDocument_of_write hdocument).fits
    refine ⟨.tooLargeToWrite, ?_, rfl⟩
    rw [encode, hwrite]

/-- One registry key is not set, and in other settings one is a number too large. -/
theorem encode_read_unset : ∃ document,
    (⟨true, .json, 3, ⟨some 4096, some 64, none, some false⟩⟩ : Settings).encode = .ok document ∧
      Settings.read ⟨8⟩ document =
        some ⟨true, .json, 3, ⟨some 4096, some 64, none, some false⟩⟩ ∧
      ∃ cause, (⟨true, .json, 3, ⟨none, none, some 9223372036854775808, none⟩⟩ : Settings).encode =
        .error cause ∧
      cause.message = "Configuration error: cannot encode configuration: ".toList ++
        "out-of-range value for u64 type".toList := by
  have hfits : (⟨true, .json, 3, ⟨some 4096, some 64, none, some false⟩⟩ : Settings).Fits := by
    simp [Fits, words]
  have hlarge : ¬ (⟨true, .json, 3, ⟨none, none, some 9223372036854775808, none⟩⟩ :
      Settings).Fits :=
    fun hfits ↦ absurd (hfits 9223372036854775808 (by simp [words])) (by decide)
  obtain ⟨document, hencode, hread⟩ := (encode_read ⟨8⟩ _).1 hfits
  exact ⟨document, hencode, hread, (encode_read ⟨8⟩ _).2 hlarge⟩

end Settings

end Interning
