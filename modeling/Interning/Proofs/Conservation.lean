import Interning.Proofs.Creations
import Interning.Proofs.InternedLists
import Interning.Proofs.SilentCounting

/-!
# Counters are conserved

A miss is counted when a text is looked up in vain, before it is known whether a record will come of
it, and the interning of a setter looks up another text meanwhile. `Table.Conserves` says what is
conserved all the same: every record that is created was a miss, every miss is such a record unless
the sequence was found exhausted, and what is counted as derived are the setters that resolutions
create.

One request conserves its counts (`Table.WellFormed.conserves_serve`), by the six outcomes of an
interning and the six of a resolution; requests in turn do (`Table.WellFormed.conserves_history`),
and so does a run (`Registry.Reachable.conserves_run`). At the start the operators are recorded and
nothing is counted, which makes the differences into totals (`Registry.conservesCounts_run`).
-/

set_option autoImplicit false
set_option relaxedAutoImplicit false

namespace Interning

namespace Table

variable {floor : UInt64} {table after : Table} {text : Text}

/-- What a table that counts has counted while records were created. -/
structure Conserves (table : Table) (creations : List Creation) (complete : Prop)
    (after : Table) : Prop where
  counting_eq : after.counting = true
  records_perm : after.records.Perm (table.records ++ creations.map Creation.record)
  /-- Every record that is created was a miss. -/
  misses_le : table.counters.misses + creations.length ≤ after.counters.misses
  /-- Every miss is a record, if nothing was abandoned. -/
  misses_eq : complete → after.counters.misses = table.counters.misses + creations.length
  races_eq : after.counters.races = table.counters.races
  derived_eq : after.counters.derived =
    table.counters.derived + creations.countP Creation.isDerived

theorem conserves_nil (hcounting : table.counting = true) (complete : Prop) :
    table.Conserves [] complete table := by
  constructor <;> simp [hcounting]

theorem Conserves.imp {creations : List Creation} {complete complete' : Prop}
    (h : table.Conserves creations complete after) (himp : complete' → complete) :
    table.Conserves creations complete' after :=
  { h with misses_eq := fun hcomplete ↦ h.misses_eq (himp hcomplete) }

theorem Conserves.trans {last : Table} {creations more : List Creation} {complete complete' : Prop}
    (h : table.Conserves creations complete after)
    (hlast : after.Conserves more complete' last) :
    table.Conserves (creations ++ more) (complete ∧ complete') last where
  counting_eq := hlast.counting_eq
  records_perm := by
    rw [List.map_append, ← List.append_assoc]
    exact hlast.records_perm.trans (h.records_perm.append_right _)
  misses_le := by
    have hfirst := h.misses_le
    have hsecond := hlast.misses_le
    rw [List.length_append]
    omega
  misses_eq := by
    rintro ⟨hcomplete, hcomplete'⟩
    have hfirst := h.misses_eq hcomplete
    have hsecond := hlast.misses_eq hcomplete'
    rw [List.length_append]
    omega
  races_eq := hlast.races_eq.trans h.races_eq
  derived_eq := by
    rw [hlast.derived_eq, h.derived_eq, List.countP_append, Nat.add_assoc]

/-! ### What a request creates -/

theorem SameNames.size_eq (h : table.SameNames after) : after.size = table.size := by
  rw [← length_records, ← length_records, h.records_eq]

theorem SameNames.countScope_eq (h : table.SameNames after) (scope : Scope) :
    after.countScope scope = table.countScope scope := by
  rw [countScope_eq_countP_records, countScope_eq_countP_records, h.records_eq]

theorem size_eq_of_perm {creations : List Creation}
    (hperm : after.records.Perm (table.records ++ creations.map Creation.record)) :
    after.size = table.size + creations.length := by
  rw [← length_records, ← length_records, hperm.length_eq, List.length_append, List.length_map]

theorem countScope_eq_of_perm {creations : List Creation}
    (hperm : after.records.Perm (table.records ++ creations.map Creation.record)) (scope : Scope) :
    after.countScope scope =
      table.countScope scope + creations.countP (·.record.id.scope == scope) := by
  rw [countScope_eq_countP_records, countScope_eq_countP_records, hperm.countP_eq,
    List.countP_append, List.countP_map]
  rfl

/-- The setters that are derived are among the setters. -/
theorem Conserves.countP_isDerived_le {creations : List Creation} {complete : Prop}
    (h : table.Conserves creations complete after) :
    creations.countP Creation.isDerived ≤ after.countScope .setter := by
  have hsetter : creations.countP Creation.isDerived ≤
      creations.countP (·.record.id.scope == .setter) := by
    refine List.countP_mono_left fun creation _ hderived ↦ ?_
    obtain ⟨_ | _, record⟩ := creation
    · exact absurd hderived (by simp [Creation.isDerived])
    · exact hderived
  rw [countScope_eq_of_perm h.records_perm]
  omega

/-- An interning derives nothing. -/
theorem countP_isDerived_intern (table : Table) (text : Text) :
    (table.creations (.intern text)).countP Creation.isDerived = 0 := by
  simp [creations, Creation.isDerived]

/-- A resolution derives as many setters as there are more. -/
theorem WellFormed.countScope_serve (h : table.WellFormed floor) (id : SymbolId) :
    (table.serve (.resolve id)).countScope .setter =
      table.countScope .setter +
        (table.creations (.resolve id)).countP Creation.isDerived := by
  have hderived : (table.creations (.resolve id)).countP Creation.isDerived =
      (table.creations (.resolve id)).countP (·.record.id.scope == .setter) := by
    rw [creations, List.countP_map, List.countP_map]
    rfl
  rw [hderived]
  exact countScope_eq_of_perm (records_perm_creations h _) .setter

/-! ### Internings -/

/-- What an interning that answers counts. -/
structure CountsInterning (table : Table) (text : Text) (after : Table) : Prop where
  /-- A recorded text is a hit. -/
  recorded : (table.lookup text).isSome = true →
    after.counters = { table.counters with hits := table.counters.hits + 1 }
  /-- A text that is new and no setter is a miss. -/
  missed : table.lookup text = none → classify text ≠ .setter →
    after.counters = { table.counters with misses := table.counters.misses + 1 }
  /-- A new setter is a miss, and the name before its sign is a hit if it is recorded. -/
  setter : table.lookup text = none → classify text = .setter →
    (table.lookup text.dropLast).isSome = true →
      after.counters = { table.counters with
        hits := table.counters.hits + 1, misses := table.counters.misses + 1 }
  /-- If it is not, the name is a second miss. -/
  setterAndBase : table.lookup text = none → classify text = .setter →
    table.lookup text.dropLast = none →
      after.counters = { table.counters with misses := table.counters.misses + 2 }

theorem Interns.counts {id : SymbolId} (hinterns : table.Interns floor text (.ok id, after))
    (hcounting : table.counting = true) : table.CountsInterning text after := by
  have hmiss := counters_countMiss hcounting
  have hmissed : table.countMiss.counting = true := (counting_countMiss table).trans hcounting
  cases hinterns with
  | known hlookup =>
    constructor <;> intro hnone
    case recorded => exact counters_countHit hcounting
    all_goals exact absurd (hnone.symm.trans hlookup) (by simp)
  | plain hnone hplain hlast =>
    constructor
    case recorded => simp [hnone]
    case missed => exact fun _ _ ↦ hmiss
    all_goals exact fun _ hscope ↦ absurd hscope hplain.2
  | @setter base sequence hnone hscope hnumber =>
    constructor
    case recorded => simp [hnone]
    case missed => exact fun _ hother ↦ absurd hscope hother
    case setter =>
      intro _ _ _
      rw [counters_recordSetter, counters_countHit hmissed, hmiss]
    case setterAndBase => simp [hnumber.lookup_eq]
  | @setterAndBase base hnone hscope hbase hlast =>
    constructor
    case recorded => simp [hnone]
    case missed => exact fun _ hother ↦ absurd hscope hother
    case setter => simp [hbase]
    case setterAndBase =>
      intro _ _ _
      rw [counters_recordSetter, counters_recordPlain, counters_countMiss hmissed, hmiss]

/-! ### Requests -/

/-- A request conserves its counts if its misses are as many as the records that there are more. -/
theorem WellFormed.conserves_of_size (h : table.WellFormed floor) {request : Request}
    (hserve : table.serve request = after) (hcounting : after.counting = true)
    (hle : table.counters.misses + after.size ≤ after.counters.misses + table.size)
    (heq : table.exhausts request = false →
      after.counters.misses + table.size = table.counters.misses + after.size)
    (hraces : after.counters.races = table.counters.races)
    (hderived : after.counters.derived =
      table.counters.derived + (table.creations request).countP Creation.isDerived) :
    table.Conserves (table.creations request) (table.exhausts request = false) after := by
  have hperm := records_perm_creations h request
  rw [hserve] at hperm
  have hsize := size_eq_of_perm hperm
  refine ⟨hcounting, hperm, ?_, fun hcomplete ↦ ?_, hraces, hderived⟩
  · omega
  · have hmisses := heq hcomplete
    omega

/-- A request that interns a text and derives nothing. -/
theorem WellFormed.conserves_of_accounts (h : table.WellFormed floor) {request : Request}
    {names : Nat} (hserve : table.serve request = after) (haccounts : table.Accounts names after)
    (hderived : (table.creations request).countP Creation.isDerived = 0) :
    table.Conserves (table.creations request) (table.exhausts request = false) after := by
  have hmisses := haccounts.misses_eq
  refine h.conserves_of_size hserve haccounts.counting_eq (by omega) (fun _ ↦ hmisses)
    haccounts.races_eq ?_
  rw [haccounts.derived_eq, hderived, Nat.add_zero]

/-- A request that finds the sequence numbers exhausted. -/
theorem WellFormed.conserves_of_onlyMissed (h : table.WellFormed floor) {request : Request}
    (hcounting : table.counting = true) (hserve : table.serve request = after)
    (honly : table.OnlyMissed after) (hexhausts : table.exhausts request = true) :
    table.Conserves (table.creations request) (table.exhausts request = false) after := by
  have hsame := honly.sameNames.size_eq
  have hnothing : table.creations request = [] := by
    have hsize := size_eq_of_perm (records_perm_creations h request)
    rw [hserve] at hsize
    exact List.length_eq_zero_iff.mp (by omega)
  have hmisses := honly.misses_le
  refine h.conserves_of_size hserve (honly.counting_eq.trans hcounting) (by omega)
    (fun hfalse ↦ absurd (hexhausts.symm.trans hfalse) (by simp)) ?_ ?_
  · rw [honly.counters_eq]
  · rw [honly.counters_eq, hnothing]
    rfl

theorem WellFormed.conserves_intern (h : table.WellFormed floor) (hcounting : table.counting = true)
    (text : Text) :
    table.Conserves (table.creations (.intern text)) (table.exhausts (.intern text) = false)
      (table.serve (.intern text)) := by
  have hinterns := h.interns text
  cases hintern : table.intern text with
  | mk answer after =>
  have hserve : table.serve (.intern text) = after := congrArg Prod.snd hintern
  rw [hintern] at hinterns
  rw [hserve]
  cases answer with
  | ok id =>
    exact h.conserves_of_accounts hserve (hinterns.accounts h hcounting)
      (countP_isDerived_intern table text)
  | error fault =>
    obtain ⟨rfl, honly⟩ := h.onlyMissed_of_intern_eq_error hintern
    refine h.conserves_of_onlyMissed hcounting hserve honly ?_
    rw [exhausts, hintern]
    rfl

/-- What a resolution derives is counted, and what else it interns is no setter. -/
theorem WellFormed.conserves_resolve (h : table.WellFormed floor)
    (hcounting : table.counting = true) (id : SymbolId) :
    table.Conserves (table.creations (.resolve id)) (table.exhausts (.resolve id) = false)
      (table.serve (.resolve id)) := by
  have hresolves := h.resolves id
  have hsetters := h.countScope_serve id
  generalize hrecord : table.record id = outcome at hresolves
  have hserve : table.serve (.resolve id) = outcome.2 := congrArg Prod.snd hrecord
  rw [hserve] at hsetters ⊢
  have hquiet {names : Nat} (haccounts : table.Accounts names outcome.2)
      (hscope : outcome.2.countScope .setter = table.countScope .setter) :
      table.Conserves (table.creations (.resolve id)) (table.exhausts (.resolve id) = false)
        outcome.2 :=
    h.conserves_of_accounts hserve haccounts (by omega)
  cases hresolves with
  | known hget => exact hquiet (accounts_zero hcounting) rfl
  | unknown hget hreader => exact hquiet (accounts_zero hcounting) rfl
  | @derived base sequence hget hid hnumber hscope hne hnone =>
    have hinterns : table.Interns floor (base ++ ['=']) (.ok (.dynamic sequence .setter),
        table.countMiss.countHit.recordSetter base sequence) :=
      .setter hnone (classify_append_sign_eq_setter hne hscope) hnumber
    have haccounts := hinterns.accounts h hcounting
    have hmissed : table.countMiss.counting = true := (counting_countMiss table).trans hcounting
    -- The miss is the setter's and the hit is the name's, so there is one setter more.
    have htotal := haccounts.total_eq
    rw [counters_recordSetter, counters_countHit hmissed, counters_countMiss hcounting] at htotal
    generalize table.countMiss.countHit.recordSetter base sequence = setter
      at haccounts htotal hserve hsetters ⊢
    have hmisses := haccounts.misses_eq
    have hsame := sameNames_countDerived setter
    have hcounters : setter.countDerived.counters =
        { setter.counters with derived := setter.counters.derived + 1 } :=
      counters_count haccounts.counting_eq _
    rw [hsame.countScope_eq] at hsetters
    refine h.conserves_of_size hserve ((counting_count setter _).trans haccounts.counting_eq)
      ?_ (fun _ ↦ ?_) ?_ ?_
    · simp only [hcounters, hsame.size_eq]
      omega
    · simp only [hcounters, hsame.size_eq]
      omega
    · rw [hcounters, haccounts.races_eq]
    · simp only [hcounters, haccounts.derived_eq]
      simp only at htotal
      omega
  | emptyKnown hget hid hnumber hsign =>
    have hinterns : table.Interns floor ['='] (.ok _, table.countHit) := .known hsign
    exact hquiet (hinterns.accounts h hcounting) ((sameNames_countHit table).countScope_eq _)
  | emptyNew hget hid hnumber hnone hlast =>
    have hinterns : table.Interns floor ['='] (.ok _, table.countMiss.recordPlain ['=']) :=
      .plain hnone isPlain_sign hlast
    have haccounts := hinterns.accounts h hcounting
    have htotal := haccounts.total_eq
    rw [counters_recordPlain, counters_countMiss hcounting] at htotal
    refine hquiet haccounts ?_
    simp only at htotal ⊢
    omega
  | emptyExhausted hget hid hnumber hnone hlast =>
    refine h.conserves_of_onlyMissed hcounting hserve (onlyMissed_countMiss table) ?_
    rw [exhausts, hrecord]
    rfl

/-- Every request conserves its counts. -/
theorem WellFormed.conserves_serve (h : table.WellFormed floor) (hcounting : table.counting = true)
    (request : Request) :
    table.Conserves (table.creations request) (table.exhausts request = false)
      (table.serve request) := by
  cases request with
  | intern text => exact h.conserves_intern hcounting text
  | resolve id => exact h.conserves_resolve hcounting id

/-- Requests in turn conserve their counts. -/
theorem WellFormed.conserves_history (h : table.WellFormed floor)
    (hcounting : table.counting = true) (requests : List Request) :
    table.Conserves (table.history requests) (table.Completes requests)
      (table.serveAll requests) := by
  induction requests generalizing table with
  | nil => exact conserves_nil hcounting _
  | cons request rest ih =>
    have hrequest := h.conserves_serve hcounting request
    exact hrequest.trans (ih (h.grows_serve request).wellFormed hrequest.counting_eq)

end Table

namespace Registry

variable {config : RegistryConfig} {registry start : Registry}

/-! ### Runs -/

/-- A run conserves its counts. -/
theorem Reachable.conserves_run (h : registry.Reachable)
    (hcounting : registry.table.counting = true) (operations : List Operation) :
    registry.table.Conserves (registry.history operations) (registry.Completes operations)
      (registry.run operations).table := by
  induction operations generalizing registry with
  | nil => exact Table.conserves_nil hcounting _
  | cons operation rest ih =>
    have hserves := serves_perform registry operation
    have hoperation := h.wellFormed.conserves_history hcounting (registry.requests operation)
    rw [← hserves.table_eq] at hoperation
    rw [run_cons]
    exact (hoperation.imp hserves.completes).trans
      (ih (h.perform operation) hoperation.counting_eq)

/-- The counters of a registry that counts agree with what a run on it has created. -/
structure ConservesCounts (start : Registry) (operations : List Operation) : Prop where
  /-- The records are those of the start and what the run has created. -/
  records_perm : (start.run operations).records.Perm
    (start.records ++ (start.history operations).map Creation.record)
  size_eq : start.Completes operations →
    (start.run operations).size = 31 + (start.run operations).stats.counters.misses
  /-- Also if an operation has found the sequence numbers exhausted. -/
  size_le : (start.run operations).size ≤ 31 + (start.run operations).stats.counters.misses
  races_eq : (start.run operations).stats.counters.races = 0
  /-- What is counted as derived are the setters that were created in a resolution. -/
  derived_eq : (start.run operations).stats.counters.derived =
    (start.history operations).countP Creation.isDerived
  derived_le : (start.run operations).stats.counters.derived ≤
    (start.run operations).stats.perScope .setter
  counts_interning : ∀ text id after, (start.run operations).intern text = (.ok id, after) →
    (start.run operations).table.CountsInterning text after.table

/-- A registry goes through a run like another that counts, and counts nothing. -/
structure RunsSilently (silent start : Registry) (operations : List Operation) : Prop where
  counters_eq : (silent.run operations).stats.counters = ⟨0, 0, 0, 0⟩
  records_eq : (silent.run operations).records = (start.run operations).records
  perScope_eq : (silent.run operations).stats.perScope = (start.run operations).stats.perScope
  /-- The next operation is answered alike, unless it shows the counters or the setup. -/
  perform_eq : ∀ operation, operation.showsCounting = false →
    ((silent.run operations).perform operation).1 = ((start.run operations).perform operation).1

theorem runsSilently_silenced (start : Registry) (operations : List Operation) :
    start.silenced.RunsSilently start operations := by
  constructor <;> rw [silenced_run]
  case counters_eq => rfl
  case records_eq => rfl
  case perScope_eq => rfl
  case perform_eq =>
    intro operation
    exact (silenced_perform _ operation).1

/-- The counters of every run on a new registry that counts are conserved, and the same run is made
on a registry that does not count. -/
theorem conservesCounts_run (hstart : Registry.create config = .ok start)
    (hstats : config.statsEnabled = true) (operations : List Operation) :
    start.ConservesCounts operations ∧
      ∃ silent, Registry.create { config with statsEnabled := false } = .ok silent ∧
        silent.RunsSilently start operations := by
  obtain ⟨hcounting, hzero⟩ := counters_of_create hstart
  have hreachable := (Reachable.create hstart).run operations
  have hconserves := (Reachable.create hstart).conserves_run (hcounting.trans hstats) operations
  have hderived := hconserves.derived_eq
  rw [hzero, Nat.zero_add] at hderived
  have hsize := Table.size_eq_of_perm hconserves.records_perm
  rw [(size_of_create hstart).1] at hsize
  refine ⟨?_, _, create_silenced hstart, runsSilently_silenced start operations⟩
  constructor
  case records_perm => exact hconserves.records_perm
  case size_eq =>
    intro hcompletes
    have hmisses := hconserves.misses_eq hcompletes
    rw [hzero] at hmisses
    change (start.run operations).table.size = 31 + (start.run operations).table.counters.misses
    simp only at hmisses
    omega
  case size_le =>
    have hmisses := hconserves.misses_le
    rw [hzero] at hmisses
    change (start.run operations).table.size ≤ 31 + (start.run operations).table.counters.misses
    simp only at hmisses
    omega
  case races_eq => exact hconserves.races_eq.trans (congrArg Counters.races hzero)
  case derived_eq => exact hderived
  case derived_le => exact hderived.trans_le hconserves.countP_isDerived_le
  case counts_interning =>
    intro text id after hintern
    exact (interns_of_intern hreachable.wellFormed hintern).counts hconserves.counting_eq

/-- A setter is derived in a resolution, and another is interned with its name. -/
theorem default_conservesCounts : ∃ start silent,
    Registry.create (.default ⟨8⟩) = .ok start ∧
      (RegistryConfig.default ⟨8⟩).statsEnabled = true ∧
      start.ConservesCounts [.intern ['a'], .resolve ⟨8012⟩, .intern ['b', '='],
        .intern ['a', '=']] ∧
      Registry.create { RegistryConfig.default ⟨8⟩ with statsEnabled := false } = .ok silent ∧
      silent.RunsSilently start [.intern ['a'], .resolve ⟨8012⟩, .intern ['b', '='],
        .intern ['a', '=']] ∧
      (start.history [.intern ['a'], .resolve ⟨8012⟩, .intern ['b', '='],
        .intern ['a', '=']]).countP Creation.isDerived = 1 ∧
      (start.run [.intern ['a'], .resolve ⟨8012⟩, .intern ['b', '='],
        .intern ['a', '=']]).size = 35 := by
  obtain ⟨hconserves, silent, hsilent, hruns⟩ := conservesCounts_run create_default rfl
    [.intern ['a'], .resolve ⟨8012⟩, .intern ['b', '='], .intern ['a', '=']]
  have hcounters : ((bootstrap (.default ⟨8⟩)).run [.intern ['a'], .resolve ⟨8012⟩,
      .intern ['b', '='], .intern ['a', '=']]).stats.counters = ⟨2, 4, 0, 1⟩ := by
    decide +kernel
  have hcompletes : (bootstrap (.default ⟨8⟩)).Completes [.intern ['a'], .resolve ⟨8012⟩,
      .intern ['b', '='], .intern ['a', '=']] :=
    ⟨by decide +kernel, by decide +kernel, by decide +kernel, by decide +kernel, trivial⟩
  have hderived := hconserves.derived_eq
  have hsize := hconserves.size_eq hcompletes
  rw [hcounters] at hderived hsize
  exact ⟨_, silent, create_default, rfl, hconserves, hsilent, hruns, hderived.symm, hsize⟩

end Registry

end Interning
