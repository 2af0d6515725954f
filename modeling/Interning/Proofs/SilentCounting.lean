import Interning.Proofs.RegistrySteps

/-!
# Counting does not show

A registry may be set up not to count. `Registry.silenced` is what a registry would be if it had
been set up like that: the same names, nothing counted, and a setup that says so. It is not only
that the two agree. Silencing commutes with every operation, so a silent run is the run that counts
with its counters taken away (`Registry.silenced_perform`, `Registry.silenced_run`), and the answers
are the same except those that show the counters or the setup (`Operation.showsCounting`).

The proofs follow the definitions and need no invariant. Of the operations on a table only `count`
reads whether the table counts, and no operation reads a counter.
-/

set_option autoImplicit false
set_option relaxedAutoImplicit false

namespace Interning

namespace Table

/-- The table that does not count, and has counted nothing. -/
def silenced (table : Table) : Table :=
  { table with counting := false, counters := ⟨0, 0, 0, 0⟩ }

variable {table : Table} {text : Text}

theorem lookup_silenced (table : Table) (text : Text) :
    table.silenced.lookup text = table.lookup text := rfl

theorem get?_silenced (table : Table) (id : SymbolId) :
    table.silenced.get? id = table.get? id := rfl

theorem sameNames_silenced (table : Table) : table.SameNames table.silenced :=
  ⟨rfl, rfl, rfl⟩

theorem silenced_insert (table : Table) (text : Text) (id : SymbolId) :
    table.silenced.insert text id = (table.insert text id).silenced := rfl

/-- A silent table does not count an event, and silencing forgets it. -/
theorem silenced_count (table : Table) (event : Counters → Counters) :
    table.silenced.count event = (table.count event).silenced := by
  have hsilent : table.silenced.count event = table.silenced := rfl
  rw [hsilent, count]
  split <;> rfl

/-! ### Interning -/

theorem silenced_fresh (table : Table) (scope : Scope) :
    table.silenced.fresh scope = Prod.map id silenced (table.fresh scope) := by
  unfold fresh
  rw [(sameNames_silenced table).lastSequence_eq]
  split <;> rfl

theorem silenced_publish (table : Table) (text : Text) (id : SymbolId) :
    table.silenced.publish text id = Prod.map (fun taken ↦ taken) silenced
      (table.publish text id) := by
  unfold publish
  rw [lookup_silenced]
  split
  · exact congrArg (Prod.mk _) (silenced_count table _)
  · exact congrArg (Prod.mk _) (silenced_insert table text id)

/-- Allocation interns a shorter text at most. -/
theorem silenced_allocate (table : Table)
    (hshorter : ∀ (table : Table) (other : Text), other.length < text.length →
      table.silenced.intern other = Prod.map id silenced (table.intern other)) :
    table.silenced.allocate text = Prod.map id silenced (table.allocate text) := by
  unfold allocate
  cases hscope : classify text with
  | setter =>
    have hlength : text.dropLast.length < text.length := by
      rw [List.length_dropLast]
      have hpos := List.length_pos_iff.mpr (ne_nil_of_classify_eq_setter hscope)
      omega
    simp only [hshorter table text.dropLast hlength]
    generalize table.intern text.dropLast = outcome
    obtain ⟨answer, after⟩ := outcome
    cases answer with
    | error fault => rfl
    | ok base =>
      simp only [Prod.map, id]
      cases base.withScope .setter with
      | some setter => rfl
      | none => exact silenced_fresh after .junk
  | operator =>
    cases Token.find? text with
    | some token => rfl
    | none => exact silenced_fresh table .junk
  | _ => exact silenced_fresh table _

/-- Interning in a silent table. The induction is on the length of the text, since interning a
setter interns its name. -/
theorem silenced_intern (table : Table) (text : Text) :
    table.silenced.intern text = Prod.map id silenced (table.intern text) := by
  induction hlength : text.length using Nat.strongRecOn generalizing table text with
  | ind length ih =>
    have hsame := lookup_silenced table text
    cases hlookup : table.lookup text with
    | some found =>
      rw [intern_of_lookup_eq_some hlookup, intern_of_lookup_eq_some (hsame.trans hlookup)]
      exact congrArg (Prod.mk _) (silenced_count table _)
    | none =>
      have hmiss : table.silenced.countMiss = table.countMiss.silenced := silenced_count table _
      rw [intern_of_lookup_eq_none hlookup, intern_of_lookup_eq_none (hsame.trans hlookup), hmiss,
        silenced_allocate table.countMiss fun table other hshorter ↦
          ih _ (hlength ▸ hshorter) table other rfl]
      generalize table.countMiss.allocate text = outcome
      obtain ⟨answer, after⟩ := outcome
      cases answer with
      | error fault => rfl
      | ok fresh =>
        simp only [Prod.map, id, silenced_publish]

/-! ### Resolving -/

theorem silenced_deriveSetter (table : Table) (setter : SymbolId) :
    table.silenced.deriveSetter setter = Prod.map id silenced (table.deriveSetter setter) := by
  unfold deriveSetter
  have hreader : table.silenced.reader? setter = table.reader? setter := rfl
  rw [hreader]
  split
  · cases table.reader? setter with
    | none => rfl
    | some base =>
      simp only [silenced_intern]
      generalize table.intern (base.text ++ ['=']) = outcome
      obtain ⟨answer, after⟩ := outcome
      cases answer with
      | error fault => rfl
      | ok derived =>
        have hderived : after.silenced.countDerived = after.countDerived.silenced :=
          silenced_count after _
        simp only [Prod.map, id, hderived, get?_silenced]
        split <;> rfl
  · rfl

theorem silenced_record (table : Table) (asked : SymbolId) :
    table.silenced.record asked = Prod.map id silenced (table.record asked) := by
  unfold record
  rw [get?_silenced]
  cases table.get? asked with
  | some record => rfl
  | none =>
    simp only [silenced_deriveSetter]
    generalize table.deriveSetter asked = outcome
    obtain ⟨answer, after⟩ := outcome
    cases answer with
    | error fault => rfl
    | ok found => cases found <;> rfl

/-! ### The start -/

/-- Registering operators counts nothing. -/
theorem silenced_foldl_register (tokens : List Token) (table : Table) :
    tokens.foldl register table.silenced = (tokens.foldl register table).silenced := by
  induction tokens generalizing table with
  | nil => rfl
  | cons token rest ih =>
    have hregister : table.silenced.register token = (table.register token).silenced := by
      unfold register
      rw [lookup_silenced]
      split <;> rfl
    rw [List.foldl_cons, List.foldl_cons, hregister, ih]

end Table

/-- The operations that show the counters, or the setup that says whether they stand still. -/
def Operation.showsCounting : Operation → Bool
  | .stats | .config | .describe => true
  | _ => false

namespace Registry

/-- The registry that is set up not to count, and has counted nothing. -/
def silenced (registry : Registry) : Registry :=
  { config := { registry.config with statsEnabled := false }, table := registry.table.silenced }

/-- A setup that does not count makes the silenced registry. -/
theorem create_silenced {config : RegistryConfig} {start : Registry}
    (hstart : Registry.create config = .ok start) :
    Registry.create { config with statsEnabled := false } = .ok start.silenced := by
  obtain ⟨hvalid, rfl⟩ := create_eq_ok_iff.mp hstart
  refine create_eq_ok_iff.mpr ⟨hvalid, ?_⟩
  have hregistered := Table.silenced_foldl_register Token.all (.empty config.statsEnabled)
  have hempty : Table.empty false = (Table.empty config.statsEnabled).silenced := rfl
  unfold bootstrap silenced
  rw [hempty, hregistered]
  rfl

/-! ### Resolutions -/

theorem silenced_afterRecord (registry : Registry) (asked : SymbolId) :
    registry.silenced.afterRecord asked = (registry.afterRecord asked).silenced := by
  unfold afterRecord silenced
  rw [Table.silenced_record]
  rfl

theorem record_silenced_fst (registry : Registry) (asked : SymbolId) :
    (registry.silenced.table.record asked).1 = (registry.table.record asked).1 := by
  rw [silenced, Table.silenced_record]
  rfl

/-! ### Operations -/

theorem silenced_resolve (registry : Registry) (asked : SymbolId) :
    registry.silenced.resolve asked = Prod.map id silenced (registry.resolve asked) := by
  rw [resolve_eq, resolve_eq, record_silenced_fst, silenced_afterRecord]
  rfl

theorem silenced_displayId (registry : Registry) (asked : SymbolId) :
    registry.silenced.displayId asked = Prod.map id silenced (registry.displayId asked) := by
  rw [displayId_eq, displayId_eq, record_silenced_fst, silenced_afterRecord]
  rfl

theorem silenced_isEmptySymbol (registry : Registry) (asked : SymbolId) :
    registry.silenced.isEmptySymbol asked =
      Prod.map id silenced (registry.isEmptySymbol asked) := by
  rw [isEmptySymbol_eq, isEmptySymbol_eq, record_silenced_fst, silenced_afterRecord]
  rfl

/-- An outcome on the table of a silenced registry. -/
theorem silenced_onTable {α : Type} (registry : Registry) (outcome : Except Fault α × Table) :
    registry.silenced.onTable (Prod.map id Table.silenced outcome) =
      Prod.map id silenced (registry.onTable outcome) := rfl

theorem silenced_intern (registry : Registry) (text : Text) :
    registry.silenced.intern text = Prod.map id silenced (registry.intern text) := by
  rw [intern, intern, ← silenced_onTable, ← Table.silenced_intern]
  rfl

theorem silenced_record (registry : Registry) (asked : SymbolId) :
    registry.silenced.record asked = Prod.map id silenced (registry.record asked) := by
  rw [record, record, ← silenced_onTable, ← Table.silenced_record]
  rfl

theorem silenced_text? (registry : Registry) (asked : SymbolId) :
    registry.silenced.text? asked = Prod.map id silenced (registry.text? asked) := by
  rw [text?_eq, text?_eq, record_silenced_fst, silenced_afterRecord]
  rfl

theorem silenced_mapText (image : Text → Text) (registry : Registry) (asked : SymbolId) :
    mapText image registry.silenced asked =
      Prod.map id silenced (mapText image registry asked) := by
  rw [mapText_eq, mapText_eq, record_silenced_fst, silenced_afterRecord]
  cases (registry.table.record asked).1 with
  | ok record => exact silenced_intern _ _
  | error fault => rfl

theorem silenced_compareBy (key : Text → Text) (registry : Registry) (a b : SymbolId) :
    compareBy key registry.silenced a b =
      Prod.map id silenced (compareBy key registry a b) := by
  unfold compareBy
  rw [silenced_text?]
  generalize registry.text? a = outcome
  obtain ⟨first, middle⟩ := outcome
  cases first with
  | error fault => rfl
  | ok first =>
    cases first with
    | none => rfl
    | some first =>
      simp only [Prod.map, id, silenced_text?]
      generalize middle.text? b = outcome
      obtain ⟨second, after⟩ := outcome
      cases second with
      | error fault => rfl
      | ok second => cases second <;> rfl

theorem silenced_setterOf (registry : Registry) (asked : SymbolId) :
    registry.silenced.setterOf asked = Prod.map id silenced (registry.setterOf asked) := by
  have hcontains : registry.silenced.contains asked = registry.contains asked := rfl
  unfold setterOf
  rw [hcontains]
  split
  · cases asked.withScope .setter with
    | none => rfl
    | some setter =>
      simp only [silenced_text?]
      generalize registry.text? setter = outcome
      obtain ⟨found, after⟩ := outcome
      cases found <;> rfl
  · rfl

theorem silenced_ofOutcome {α : Type} (answer : α → Answer)
    (outcome : Except Fault α × Registry) :
    Answer.ofOutcome answer (Prod.map id silenced outcome) =
      Prod.map id silenced (Answer.ofOutcome answer outcome) := by
  obtain ⟨result, after⟩ := outcome
  cases result <;> rfl

/-- An operation that does not show the counting answers the same in a silenced registry. -/
theorem silenced_perform (registry : Registry) (operation : Operation) :
    (operation.showsCounting = false →
        (registry.silenced.perform operation).1 = (registry.perform operation).1) ∧
      (registry.silenced.perform operation).2 = (registry.perform operation).2.silenced := by
  have hperform : operation.showsCounting = false →
      registry.silenced.perform operation = Prod.map id silenced (registry.perform operation) := by
    intro hshows
    cases operation <;> simp only [perform, ← silenced_ofOutcome]
    case intern text => rw [silenced_intern]
    case resolve asked => rw [silenced_resolve]
    case record asked => rw [silenced_record]
    case displayId asked => rw [silenced_displayId]
    case isEmptySymbol asked => rw [silenced_isEmptySymbol]
    case compare a b => exact congrArg _ (silenced_compareBy _ registry a b)
    case caseCompare a b => exact congrArg _ (silenced_compareBy _ registry a b)
    case upcase asked => exact congrArg _ (silenced_mapText _ registry asked)
    case downcase asked => exact congrArg _ (silenced_mapText _ registry asked)
    case capitalize asked => exact congrArg _ (silenced_mapText _ registry asked)
    case swapCase asked => exact congrArg _ (silenced_mapText _ registry asked)
    case setterOf asked => rw [silenced_setterOf]
    case stats | config | describe => cases hshows
    all_goals rfl
  cases hshows : operation.showsCounting with
  | false =>
    rw [hperform hshows]
    exact ⟨fun _ ↦ rfl, rfl⟩
  | true =>
    refine ⟨fun hfalse ↦ absurd hfalse (by simp), ?_⟩
    cases operation <;> first | rfl | cases hshows

/-- Silencing a registry after a run is the same as before it. -/
theorem silenced_run (registry : Registry) (operations : List Operation) :
    registry.silenced.run operations = (registry.run operations).silenced := by
  induction operations generalizing registry with
  | nil => rfl
  | cons operation rest ih =>
    rw [run_cons, run_cons, (silenced_perform registry operation).2, ih]

end Registry

end Interning
