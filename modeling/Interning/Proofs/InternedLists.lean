import Interning.Command
import Interning.Proofs.CounterLaws

/-!
# Lists of names, interned in order

The commands intern lists of names: `Registry.internAll` for the identifiers, and
`Registry.report` for the names with their literals as well. `Registry.InternsAll` is the run
that both make, one successful interning for each name, and the facts about one interning are
carried along it: the table grows (`Registry.InternsAll.grows`), what is recorded is what the
names need (`Registry.InternsAll.textSet_eq`), the counters account for the names
(`Registry.InternsAll.accounts`), and every name looks up to its identifier at the end
(`Registry.InternsAll.map_lookup`). A report resolves what has just been recorded, which leaves
the registry alone, so that it makes the same run (`Registry.InternsAll.exists_report`).

Where there are sequence numbers for all that the names need, no interning fails
(`Registry.exists_internsAll`). `Settings.Accommodates` says so of the registry that a command
sets up, and `Settings.Accommodates.exists_reported` what the command makes of the names then.
-/

set_option autoImplicit false
set_option relaxedAutoImplicit false

namespace Interning.Registry

/-- Names have been interned in order, all of them successfully. -/
inductive InternsAll : Registry → List Text → List SymbolId → Registry → Prop
  | nil (registry : Registry) : InternsAll registry [] [] registry
  | cons {registry middle after : Registry} {name : Text} {names : List Text} {id : SymbolId}
      {ids : List SymbolId} (hintern : registry.intern name = (.ok id, middle))
      (hrest : InternsAll middle names ids after) :
      InternsAll registry (name :: names) (id :: ids) after

variable {floor : UInt64} {registry after : Registry} {name : Text} {names : List Text}
  {id : SymbolId} {ids : List SymbolId}

/-! ### One name -/

theorem interns_of_intern (h : registry.table.WellFormed floor)
    (hintern : registry.intern name = (.ok id, after)) :
    registry.table.Interns floor name (.ok id, after.table) := by
  have hinterns := h.interns name
  rwa [table_of_intern hintern] at hinterns

theorem grows_of_intern (h : registry.table.WellFormed floor)
    (hintern : registry.intern name = (.ok id, after)) :
    registry.table.Grows floor after.table :=
  (interns_of_intern h hintern).grows h

/-- The literal of a recorded name is shown without a change. -/
theorem displayId_of_lookup (h : registry.table.WellFormed floor)
    (hlookup : registry.lookup name = some id) :
    registry.displayId id = (.ok (Literal.literal name), registry) := by
  rw [displayId, resolve, h.resolve_of_lookup hlookup]
  rfl

/-! ### All names -/

theorem InternsAll.internAll_eq (hinterns : registry.InternsAll names ids after) :
    registry.internAll names = (.ok ids, after) := by
  induction hinterns with
  | nil registry => rfl
  | cons hintern _ ih =>
    rw [internAll, hintern]
    simp only [ih]

theorem InternsAll.grows (hinterns : registry.InternsAll names ids after)
    (h : registry.table.WellFormed floor) : registry.table.Grows floor after.table := by
  induction hinterns with
  | nil registry => exact h.grows (.refl registry.table)
  | cons hintern _ ih =>
    have hgrows := grows_of_intern h hintern
    exact hgrows.trans (ih hgrows.wellFormed)

/-- What is recorded at the end is what was recorded before and what the names need. -/
theorem InternsAll.textSet_eq (hinterns : registry.InternsAll names ids after)
    (h : registry.table.WellFormed floor) :
    after.table.textSet = registry.table.textSet ∪ Batch.required names := by
  induction hinterns with
  | nil registry => rw [Batch.required_nil, Finset.union_empty]
  | @cons registry middle after name names id ids hintern _ ih =>
    rw [ih (grows_of_intern h hintern).wellFormed, (interns_of_intern h hintern).textSet_eq h,
      Finset.union_assoc, ← Batch.required_cons]

theorem InternsAll.accounts (hinterns : registry.InternsAll names ids after)
    (h : registry.table.WellFormed floor) (hcounting : registry.table.counting = true) :
    registry.table.Accounts names.length after.table := by
  induction hinterns with
  | nil registry => exact Table.accounts_zero hcounting
  | cons hintern _ ih =>
    have hname := (interns_of_intern h hintern).accounts h hcounting
    have hrest := ih (grows_of_intern h hintern).wellFormed hname.counting_eq
    rw [List.length_cons, Nat.add_comm]
    exact hname.trans hrest

/-- At the end every name looks up to its identifier. -/
theorem InternsAll.map_lookup (hinterns : registry.InternsAll names ids after)
    (h : registry.table.WellFormed floor) : names.map after.lookup = ids.map some := by
  induction hinterns with
  | nil registry => rfl
  | cons hintern hrest ih =>
    have hmiddle := (grows_of_intern h hintern).wellFormed
    have hlookup := (interns_of_intern h hintern).lookup_eq
    rw [List.map_cons, List.map_cons, ih hmiddle, lookup,
      (hrest.grows hmiddle).extends_table.lookup_eq _ _ hlookup]

/-- A report of the names makes the same run, and shows every name with the identifier that it
looks up to at the end and the scope that this carries. -/
theorem InternsAll.exists_report (hinterns : registry.InternsAll names ids after)
    (h : registry.table.WellFormed floor) :
    ∃ reports, registry.report names = .ok reports ∧ reports.map SymbolReport.text = names ∧
      ∀ report ∈ reports, after.lookup report.text = some report.id ∧
        report = .new report.id report.text (Literal.literal report.text) := by
  induction hinterns with
  | nil registry => exact ⟨[], rfl, rfl, by simp⟩
  | @cons registry middle after name names id ids hintern hrest ih =>
    have hmiddle := (grows_of_intern h hintern).wellFormed
    have hlookup := (interns_of_intern h hintern).lookup_eq
    obtain ⟨reports, hreport, htexts, hall⟩ := ih hmiddle
    refine ⟨.new id name (Literal.literal name) :: reports, ?_, ?_, ?_⟩
    · rw [report, hintern]
      simp only [displayId_of_lookup hmiddle hlookup, hreport]
    · rw [List.map_cons, htexts, SymbolReport.new]
    · rw [List.forall_mem_cons]
      exact ⟨⟨(hrest.grows hmiddle).extends_table.lookup_eq _ _ hlookup, rfl⟩, hall⟩

/-- Where there is a number for every plain name that is recorded or needed, the names are all
interned. -/
theorem exists_internsAll (h : registry.table.WellFormed floor)
    (hroom : floor.toNat + ((registry.table.textSet ∪ Batch.required names).filter IsPlain).card ≤
      SymbolId.maxSequence.toNat) :
    ∃ ids after, registry.InternsAll names ids after := by
  induction names generalizing registry with
  | nil => exact ⟨[], registry, .nil registry⟩
  | cons name names ih =>
    rw [Batch.required_cons, ← Finset.union_assoc] at hroom
    have hfirst : ((registry.table.textSet ∪ Batch.required [name]).filter IsPlain).card ≤
        ((registry.table.textSet ∪ Batch.required [name] ∪ Batch.required names).filter
          IsPlain).card :=
      Finset.card_le_card (Finset.filter_subset_filter _ Finset.subset_union_left)
    obtain ⟨id, table, htable⟩ : ∃ id table, registry.table.intern name = (.ok id, table) :=
      h.exists_intern_eq_ok (by omega)
    have hintern : registry.intern name = (.ok id, { registry with table := table }) := by
      rw [intern, htable, onTable]
    rw [← (interns_of_intern h hintern).textSet_eq h] at hroom
    obtain ⟨ids, after, hrest⟩ := ih (grows_of_intern h hintern).wellFormed hroom
    exact ⟨id :: ids, after, .cons hintern hrest⟩

end Interning.Registry

namespace Interning.Settings

/-- The setup in effect is accepted, and has a sequence number for every plain name that names
need. -/
structure Accommodates (settings : Settings) (around : Surroundings) (names : List Text) :
    Prop where
  validate_eq : (settings.registryConfig around.machine around.environment).validate = .ok ()
  room : (settings.registryConfig around.machine around.environment).sequenceFloor.toNat +
    ((Batch.recorded names).filter (classify · ≠ .setter)).card ≤ 2 ^ 61 - 1

variable {settings : Settings} {around : Surroundings} {names : List Text}

/-- Names that are accommodated are all interned in a new registry. -/
theorem Accommodates.exists_internsAll (h : settings.Accommodates around names) :
    ∃ start ids after,
      Registry.create (settings.registryConfig around.machine around.environment) = .ok start ∧
        start.InternsAll names ids after := by
  have hstart := Registry.create_eq_ok_iff.mpr ⟨h.validate_eq, rfl⟩
  have hroom := h.room
  rw [← Batch.filter_isPlain_union_required, ← Registry.textSet_of_create hstart] at hroom
  obtain ⟨ids, after, hinterns⟩ :=
    Registry.exists_internsAll (Registry.wellFormed_of_create hstart).2 hroom
  exact ⟨_, ids, after, hstart, hinterns⟩

/-- What names are reported as is the report of a new registry. -/
theorem internNames_eq {start : Registry} {reports : List SymbolReport}
    (hstart : Registry.create (settings.registryConfig around.machine around.environment) =
      .ok start)
    (hreport : start.report names = .ok reports) :
    internNames settings around names = .ok reports := by
  rw [internNames, openRegistry, hstart]
  simp only [hreport]

/-- What a command makes of names that it interns: a registry that holds them, and their reports. -/
structure Reported (settings : Settings) (around : Surroundings) (names : List Text)
    (start : Registry) (ids : List SymbolId) (after : Registry) (reports : List SymbolReport) :
    Prop where
  create_eq :
    Registry.create (settings.registryConfig around.machine around.environment) = .ok start
  internsAll : start.InternsAll names ids after
  wellFormed : after.table.WellFormed
    (settings.registryConfig around.machine around.environment).sequenceFloor
  textSet_eq : after.table.textSet = Token.texts ∪ Batch.required names
  internNames_eq : internNames settings around names = .ok reports
  texts_eq : reports.map SymbolReport.text = names
  report_eq : ∀ report ∈ reports, after.lookup report.text = some report.id ∧
    report = .new report.id report.text (Literal.literal report.text)

theorem Accommodates.exists_reported (h : settings.Accommodates around names) :
    ∃ start ids after reports, settings.Reported around names start ids after reports := by
  obtain ⟨start, ids, after, hstart, hinterns⟩ := h.exists_internsAll
  have htable := (Registry.wellFormed_of_create hstart).2
  obtain ⟨reports, hreport, htexts, hreports⟩ := hinterns.exists_report htable
  refine ⟨start, ids, after, reports, hstart, hinterns, (hinterns.grows htable).wellFormed, ?_,
    internNames_eq hstart hreport, htexts, hreports⟩
  rw [hinterns.textSet_eq htable, Registry.textSet_of_create hstart]

end Interning.Settings
