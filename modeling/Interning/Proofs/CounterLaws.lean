import Interning.Proofs.RecordedTexts

/-!
# What an interning counts

The counters of a table are advanced before and beside the records: a miss before the text is
classified, a hit where a text is found, also when the text is the name before a setter's sign. So
nothing in the code compares a counter with the records. `Table.Accounts` says that they agree:
while names are interned, the misses grow as the records do, every name accounts for one hit or
miss, and every setter that is new for one more, that of the name before its sign.

The account of one interning is read off its outcomes (`Table.Interns.accounts`), and accounts of
successive names add up (`Table.Accounts.trans`).
-/

set_option autoImplicit false
set_option relaxedAutoImplicit false

namespace Interning

namespace Table

variable {floor : UInt64} {table after : Table} {text base : Text} {id : SymbolId}

/-! ### Events -/

@[simp]
theorem counting_count (table : Table) (event : Counters → Counters) :
    (table.count event).counting = table.counting := by
  unfold count
  split <;> rfl

theorem counters_count (hcounting : table.counting = true) (event : Counters → Counters) :
    (table.count event).counters = event table.counters := by
  rw [count, if_pos hcounting]

@[simp]
theorem counting_countHit (table : Table) : table.countHit.counting = table.counting :=
  counting_count table _

@[simp]
theorem counting_countMiss (table : Table) : table.countMiss.counting = table.counting :=
  counting_count table _

theorem counters_countHit (hcounting : table.counting = true) :
    table.countHit.counters = { table.counters with hits := table.counters.hits + 1 } :=
  counters_count hcounting _

theorem counters_countMiss (hcounting : table.counting = true) :
    table.countMiss.counters = { table.counters with misses := table.counters.misses + 1 } :=
  counters_count hcounting _

@[simp]
theorem counting_recordPlain (table : Table) (text : Text) :
    (table.recordPlain text).counting = table.counting := rfl

@[simp]
theorem counters_recordPlain (table : Table) (text : Text) :
    (table.recordPlain text).counters = table.counters := rfl

@[simp]
theorem counting_recordSetter (table : Table) (base : Text) (sequence : UInt64) :
    (table.recordSetter base sequence).counting = table.counting := rfl

@[simp]
theorem counters_recordSetter (table : Table) (base : Text) (sequence : UInt64) :
    (table.recordSetter base sequence).counters = table.counters := rfl

/-! ### Accounts -/

/-- What a table that counts has counted while some number of names were interned. -/
structure Accounts (table : Table) (names : Nat) (after : Table) : Prop where
  counting_eq : after.counting = true
  /-- Every miss is a record. -/
  misses_eq : after.counters.misses + table.size = table.counters.misses + after.size
  /-- Every name is a hit or a miss, and so is the name before the sign of a new setter. -/
  total_eq : after.counters.hits + after.counters.misses + table.countScope .setter =
    table.counters.hits + table.counters.misses + names + after.countScope .setter
  races_eq : after.counters.races = table.counters.races
  derived_eq : after.counters.derived = table.counters.derived

theorem accounts_zero (hcounting : table.counting = true) : table.Accounts 0 table :=
  ⟨hcounting, rfl, rfl, rfl, rfl⟩

theorem Accounts.trans {last : Table} {names more : Nat} (h : table.Accounts names after)
    (hlast : after.Accounts more last) : table.Accounts (names + more) last where
  counting_eq := hlast.counting_eq
  misses_eq := by
    have hfirst := h.misses_eq
    have hsecond := hlast.misses_eq
    omega
  total_eq := by
    have hfirst := h.total_eq
    have hsecond := hlast.total_eq
    omega
  races_eq := hlast.races_eq.trans h.races_eq
  derived_eq := hlast.derived_eq.trans h.derived_eq

/-! ### Records -/

/-- New texts are as many records more, each of its scope. -/
theorem WellFormed.size_of_textSet_eq (h : table.WellFormed floor) (hafter : after.WellFormed floor)
    {added : Finset Text} (hset : after.textSet = table.textSet ∪ added)
    (hnew : ∀ text ∈ added, table.lookup text = none) :
    after.size = table.size + added.card ∧
      ∀ scope, after.countScope scope =
        table.countScope scope + (added.filter (classify · = scope)).card := by
  have hdisjoint : Disjoint table.textSet added := by
    refine Finset.disjoint_right.mpr fun text htext hold ↦ ?_
    rw [h.mem_textSet_iff, hnew text htext] at hold
    exact absurd hold (by simp)
  constructor
  · rw [← h.card_textSet, ← hafter.card_textSet, hset, Finset.card_union_of_disjoint hdisjoint]
  · intro scope
    rw [← h.card_filter_textSet, ← hafter.card_filter_textSet, hset, Finset.filter_union,
      Finset.card_union_of_disjoint (Finset.disjoint_filter_filter hdisjoint)]

/-- The account of an interning of which the new texts and the counts are known. -/
theorem WellFormed.accounts_of_textSet_eq (h : table.WellFormed floor)
    (hafter : after.WellFormed floor) {added : Finset Text}
    (hset : after.textSet = table.textSet ∪ added) (hnew : ∀ text ∈ added, table.lookup text = none)
    (hcounting : after.counting = true) (hits : Nat)
    (hcounters : after.counters = { table.counters with
      hits := table.counters.hits + hits, misses := table.counters.misses + added.card })
    (htotal : hits + added.card = 1 + (added.filter (classify · = .setter)).card) :
    table.Accounts 1 after := by
  obtain ⟨hsize, hscopes⟩ := h.size_of_textSet_eq hafter hset hnew
  constructor
  case counting_eq => exact hcounting
  case misses_eq =>
    simp only [hcounters, hsize]
    omega
  case total_eq =>
    simp only [hcounters, hscopes]
    omega
  case races_eq => rw [hcounters]
  case derived_eq => rw [hcounters]

/-- The account of an interning that answers. -/
theorem Interns.accounts (hinterns : table.Interns floor text (.ok id, after))
    (h : table.WellFormed floor) (hcounting : table.counting = true) :
    table.Accounts 1 after := by
  have hafter := (hinterns.grows h).wellFormed
  have hset := hinterns.textSet_eq h
  have hmiss := counters_countMiss hcounting
  have hmissed : table.countMiss.counting = true := (counting_countMiss table).trans hcounting
  cases hinterns with
  | known hlookup =>
    rw [Finset.union_eq_left.mpr (h.required_subset hlookup), ← Finset.union_empty table.textSet]
      at hset
    exact h.accounts_of_textSet_eq hafter hset (by simp) (by simpa using hcounting) 1
      (counters_countHit hcounting) (by simp)
  | plain hnone hplain hlast =>
    rw [Batch.required_singleton_of_isPlain hplain] at hset
    refine h.accounts_of_textSet_eq hafter hset (by simpa using hnone) (by simpa using hcounting)
      0 ?_ ?_
    · simp [hmiss]
    · simp [Finset.filter_singleton, hplain.2]
  | @setter base sequence hnone hscope hnumber =>
    have hbase : base ∈ table.textSet := by
      rw [h.mem_textSet_iff, hnumber.lookup_eq]
      rfl
    rw [Batch.union_required_setter hscope hbase] at hset
    refine h.accounts_of_textSet_eq hafter hset (by simpa using hnone) (by simpa using hcounting)
      1 ?_ ?_
    · simp [counters_countHit hmissed, hmiss]
    · simp [Finset.filter_singleton, hscope]
  | @setterAndBase base hnone hscope hbase hlast =>
    have hcard : ({base ++ ['='], base} : Finset Text).card = 2 := Finset.card_pair (by simp)
    rw [Batch.required_singleton_setter hscope] at hset
    refine h.accounts_of_textSet_eq hafter hset (by simp [hnone, hbase])
      (by simpa using hcounting) 0 ?_ ?_
    · simp [hcard, counters_countMiss hmissed, hmiss]
    · simp [hcard, Finset.filter_insert, Finset.filter_singleton, hscope,
        (isPlain_of_classify_eq_setter hscope).2]

/-! ### The start -/

theorem counting_startSequence (table : Table) (floor : UInt64) :
    (table.startSequence floor).counting = table.counting := rfl

theorem counters_startSequence (table : Table) (floor : UInt64) :
    (table.startSequence floor).counters = table.counters := rfl

/-- Registering operators counts nothing. -/
theorem counters_foldl_register (tokens : List Token) (table : Table) :
    (tokens.foldl register table).counting = table.counting ∧
      (tokens.foldl register table).counters = table.counters := by
  induction tokens generalizing table with
  | nil => exact ⟨rfl, rfl⟩
  | cons token rest ih =>
    have hregister : (table.register token).counting = table.counting ∧
        (table.register token).counters = table.counters := by
      unfold register
      split <;> exact ⟨rfl, rfl⟩
    rw [List.foldl_cons, (ih _).1, (ih _).2]
    exact hregister

end Table

/-- A new registry counts if its setup says so, and has counted nothing. -/
theorem Registry.counters_of_create {config : RegistryConfig} {start : Registry}
    (hstart : Registry.create config = .ok start) :
    start.table.counting = config.statsEnabled ∧ start.table.counters = ⟨0, 0, 0, 0⟩ := by
  obtain ⟨-, rfl⟩ := create_eq_ok_iff.mp hstart
  rw [bootstrap, Table.counting_startSequence, Table.counters_startSequence]
  exact Table.counters_foldl_register Token.all (Table.empty config.statsEnabled)

end Interning
