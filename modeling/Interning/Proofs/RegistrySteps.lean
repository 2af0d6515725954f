import Interning.Session
import Interning.Proofs.InterningOutcome
import Mathlib.Logic.Relation

/-!
# Runs of a registry

Whatever an operation answers, it changes the table of a registry through internings alone, each of
which may be followed by counting a derived setter. `Table.Step` is one such change and
`Table.Steps` a sequence of them; `Registry.steps_perform` reads every operation as a sequence, so
that a property of the table needs a proof for interning and for counting, and holds along every
run. The invariant is the first such property (`Table.Steps.grows`).

A registry is `Registry.Reachable` if a checked setup and operations lead to it. Its table satisfies
the invariant at the floor of its setup (`Registry.Reachable.wellFormed`).

The operations that resolve an identifier all leave the same registry behind,
`Registry.afterRecord`, and answer with an image of the record. The equations `Registry.resolve_eq`
to `Registry.mapText_eq` say which.
-/

set_option autoImplicit false
set_option relaxedAutoImplicit false

namespace Interning

namespace Table

/-- An interning, or the count of a derived setter. -/
inductive Step (table : Table) : Table → Prop
  | intern (text : Text) : Step table (table.intern text).2
  | countDerived : Step table table.countDerived

/-- Steps in turn. -/
def Steps : Table → Table → Prop :=
  Relation.ReflTransGen Step

variable {floor : UInt64} {table after : Table}

theorem Steps.refl (table : Table) : table.Steps table :=
  Relation.ReflTransGen.refl

theorem Steps.trans {last : Table} (h : table.Steps after) (hlast : after.Steps last) :
    table.Steps last :=
  Relation.ReflTransGen.trans h hlast

theorem steps_intern (table : Table) (text : Text) : table.Steps (table.intern text).2 :=
  Relation.ReflTransGen.single (.intern text)

theorem steps_countDerived (table : Table) : table.Steps table.countDerived :=
  Relation.ReflTransGen.single .countDerived

/-- Deriving a setter interns the sign behind a name, if it does anything at all. -/
theorem steps_deriveSetter (table : Table) (id : SymbolId) :
    table.Steps (table.deriveSetter id).2 := by
  unfold deriveSetter
  split
  · split
    · exact .refl table
    · next base _ =>
      have hintern := steps_intern table (base.text ++ ['='])
      split
      · next derived after hafter =>
        rw [hafter] at hintern
        split
        · exact hintern.trans (steps_countDerived after)
        · exact hintern
      · next fault after hafter =>
        rw [hafter] at hintern
        exact hintern
  · exact .refl table

theorem steps_record (table : Table) (id : SymbolId) : table.Steps (table.record id).2 := by
  have hderive := steps_deriveSetter table id
  unfold record
  split
  · exact .refl table
  · split <;> next hafter => rwa [hafter] at hderive

/-- A property of tables that interning and counting keep is kept by steps in turn. -/
theorem Steps.preserves {motive : Table → Prop} (h : table.Steps after)
    (hintern : ∀ before text, motive before → motive (before.intern text).2)
    (hcount : ∀ before, motive before → motive before.countDerived)
    (hstart : motive table) : motive after := by
  induction h with
  | refl => exact hstart
  | tail _ hstep ih =>
    cases hstep with
    | intern text => exact hintern _ text ih
    | countDerived => exact hcount _ ih

/-- Steps take nothing away and keep the invariant. -/
theorem Steps.grows (h : table.Steps after) (hstart : table.WellFormed floor) :
    table.Grows floor after := by
  refine h.preserves ?_ ?_ ?_
  · intro before text hbefore
    exact hbefore.trans ((hbefore.wellFormed.interns text).grows hbefore.wellFormed)
  · intro before hbefore
    exact hbefore.trans (hbefore.wellFormed.grows (sameNames_countDerived before))
  · exact hstart.grows (.refl table)

end Table

namespace Registry

/-! ### Operations that resolve an identifier -/

/-- The registry that resolving an identifier leaves behind. -/
def afterRecord (registry : Registry) (id : SymbolId) : Registry :=
  { registry with table := (registry.table.record id).2 }

theorem resolve_eq (registry : Registry) (id : SymbolId) :
    registry.resolve id =
      ((registry.table.record id).1.map Record.text, registry.afterRecord id) := by
  unfold resolve onTable Table.resolve afterRecord
  generalize registry.table.record id = outcome
  obtain ⟨answer, after⟩ := outcome
  cases answer <;> rfl

theorem displayId_eq (registry : Registry) (id : SymbolId) :
    registry.displayId id =
      ((registry.table.record id).1.map fun record ↦ Literal.literal record.text,
        registry.afterRecord id) := by
  rw [displayId, resolve_eq]
  cases (registry.table.record id).1 <;> rfl

theorem isEmptySymbol_eq (registry : Registry) (id : SymbolId) :
    registry.isEmptySymbol id =
      ((registry.table.record id).1.map fun record ↦ record.text.isEmpty,
        registry.afterRecord id) := by
  rw [isEmptySymbol, resolve_eq]
  cases (registry.table.record id).1 <;> rfl

/-- The answer of `text?`, where an identifier without a name is no fault. -/
theorem text?_eq (registry : Registry) (id : SymbolId) :
    registry.text? id =
      (match (registry.table.record id).1 with
        | .ok record => .ok (some record.text)
        | .error (.notFound _) => .ok none
        | .error (.exhausted last) => .error (.exhausted last),
        registry.afterRecord id) := by
  rw [text?, resolve_eq]
  cases (registry.table.record id).1 with
  | ok record => rfl
  | error fault => cases fault <;> rfl

theorem mapText_eq (image : Text → Text) (registry : Registry) (id : SymbolId) :
    mapText image registry id =
      match (registry.table.record id).1 with
      | .ok record => (registry.afterRecord id).intern (image record.text)
      | .error fault => (.error fault, registry.afterRecord id) := by
  rw [mapText, resolve_eq]
  cases (registry.table.record id).1 <;> rfl

/-! ### Operations as steps -/

/-- The setup stays and the table takes steps. -/
structure Steps (registry after : Registry) : Prop where
  config_eq : after.config = registry.config
  table : registry.table.Steps after.table

variable {registry after : Registry}

theorem Steps.refl (registry : Registry) : registry.Steps registry :=
  ⟨rfl, .refl registry.table⟩

theorem Steps.trans {last : Registry} (h : registry.Steps after) (hlast : after.Steps last) :
    registry.Steps last :=
  ⟨hlast.config_eq.trans h.config_eq, h.table.trans hlast.table⟩

theorem steps_intern (registry : Registry) (text : Text) :
    registry.Steps (registry.intern text).2 :=
  ⟨rfl, Table.steps_intern registry.table text⟩

theorem steps_afterRecord (registry : Registry) (id : SymbolId) :
    registry.Steps (registry.afterRecord id) :=
  ⟨rfl, Table.steps_record registry.table id⟩

theorem steps_mapText (image : Text → Text) (registry : Registry) (id : SymbolId) :
    registry.Steps (mapText image registry id).2 := by
  have hrecord := steps_afterRecord registry id
  rw [mapText_eq]
  split
  · exact hrecord.trans (steps_intern _ _)
  · exact hrecord

theorem steps_text? (registry : Registry) (id : SymbolId) :
    registry.Steps (registry.text? id).2 := by
  rw [text?_eq]
  exact steps_afterRecord registry id

theorem steps_setterOf (registry : Registry) (id : SymbolId) :
    registry.Steps (registry.setterOf id).2 := by
  unfold setterOf
  split
  · split
    · exact .refl registry
    · next setter _ =>
      have htext := steps_text? registry setter
      split <;> next hafter => rwa [hafter] at htext
  · exact .refl registry

theorem steps_compareBy (key : Text → Text) (registry : Registry) (a b : SymbolId) :
    registry.Steps (compareBy key registry a b).2 := by
  have hfirst := steps_text? registry a
  unfold compareBy
  split
  · next first middle hmiddle =>
    rw [hmiddle] at hfirst
    have hsecond := steps_text? middle b
    split <;>
    · next hlast =>
      rw [hlast] at hsecond
      exact hfirst.trans hsecond
  · next hmiddle => rwa [hmiddle] at hfirst
  · next hmiddle => rwa [hmiddle] at hfirst

theorem ofOutcome_snd {α σ : Type} (answer : α → Answer) (outcome : Except Fault α × σ) :
    (Answer.ofOutcome answer outcome).2 = outcome.2 := by
  obtain ⟨value, after⟩ := outcome
  cases value <;> rfl

/-- Every operation is a sequence of steps, whatever it answers. -/
theorem steps_perform (registry : Registry) (operation : Operation) :
    registry.Steps (registry.perform operation).2 := by
  cases operation <;> simp only [perform, ofOutcome_snd]
  case intern text => exact steps_intern registry text
  case resolve id =>
    rw [resolve_eq]
    exact steps_afterRecord registry id
  case record id => exact steps_afterRecord registry id
  case displayId id =>
    rw [displayId_eq]
    exact steps_afterRecord registry id
  case isEmptySymbol id =>
    rw [isEmptySymbol_eq]
    exact steps_afterRecord registry id
  case compare a b => exact steps_compareBy id registry a b
  case caseCompare a b => exact steps_compareBy _ registry a b
  case upcase id => exact steps_mapText _ registry id
  case downcase id => exact steps_mapText _ registry id
  case capitalize id => exact steps_mapText _ registry id
  case swapCase id => exact steps_mapText _ registry id
  case setterOf id => exact steps_setterOf registry id
  all_goals exact .refl registry

theorem wellFormed_afterRecord {floor : UInt64} (h : registry.table.WellFormed floor)
    (id : SymbolId) : (registry.afterRecord id).table.WellFormed floor :=
  ((Table.steps_record registry.table id).grows h).wellFormed

theorem grows_perform {floor : UInt64} (h : registry.table.WellFormed floor)
    (operation : Operation) : registry.table.Grows floor (registry.perform operation).2.table :=
  (steps_perform registry operation).table.grows h

theorem run_cons (registry : Registry) (operation : Operation) (operations : List Operation) :
    registry.run (operation :: operations) = (registry.perform operation).2.run operations := rfl

theorem run_intern (registry : Registry) (text : Text) :
    registry.run [.intern text] = (registry.intern text).2 :=
  ofOutcome_snd Answer.symbol (registry.intern text)

theorem steps_run (registry : Registry) (operations : List Operation) :
    registry.Steps (registry.run operations) := by
  induction operations generalizing registry with
  | nil => exact .refl registry
  | cons operation rest ih =>
    rw [run_cons]
    exact (steps_perform registry operation).trans (ih _)

/-! ### Registries that runs lead to -/

/-- A registry that a checked setup and operations on it lead to. -/
inductive Reachable : Registry → Prop
  | create {config : RegistryConfig} {registry : Registry}
      (h : Registry.create config = .ok registry) : Reachable registry
  | perform {registry : Registry} (h : Reachable registry) (operation : Operation) :
      Reachable (registry.perform operation).2

theorem Reachable.run (h : registry.Reachable) (operations : List Operation) :
    (registry.run operations).Reachable := by
  induction operations generalizing registry with
  | nil => exact h
  | cons operation rest ih => exact ih (h.perform operation)

theorem Reachable.wellFormed (h : registry.Reachable) :
    registry.table.WellFormed registry.config.sequenceFloor := by
  induction h with
  | create h =>
    obtain ⟨rfl, hstart⟩ := wellFormed_of_create h
    exact hstart
  | @perform before _ operation ih =>
    have hsteps := steps_perform before operation
    rw [hsteps.config_eq]
    exact (hsteps.table.grows ih).wellFormed

/-! ### The first name -/

section FirstName

variable {config : RegistryConfig} {start : Registry} {text : Text}

theorem create_default : create (.default ⟨8⟩) = .ok (bootstrap (.default ⟨8⟩)) :=
  create_eq_ok_iff.mpr ⟨by decide +kernel, rfl⟩

/-- The first name of a new registry is recorded under the number after the floor. -/
theorem table_run_intern (hstart : Registry.create config = .ok start) (hplain : IsPlain text) :
    (start.run [.intern text]).table = start.table.countMiss.recordPlain text := by
  rw [run_intern, intern, onTable, intern_of_create hstart hplain]

theorem numbers_run_intern (hstart : Registry.create config = .ok start)
    (hplain : IsPlain text) :
    (start.run [.intern text]).table.Numbers config.sequenceFloor text
      (config.sequenceFloor + 1) := by
  have hsame := Table.sameNames_countMiss start.table
  have hcounted := hsame.wellFormed (wellFormed_of_create hstart).2
  obtain ⟨hvalid, rfl⟩ := create_eq_ok_iff.mp hstart
  have hlast := (RegistryConfig.floor_of_validate hvalid).2
  have hsequence := hsame.lastSequence_eq.trans (lastSequence_bootstrap config)
  rw [← hsequence] at hlast
  rw [table_run_intern hstart hplain, Table.numbers_recordPlain_iff hcounted hlast hplain
    ((hsame.lookup_eq text).trans (lookup_bootstrap_of_isPlain config hplain)), hsequence]
  exact .inr ⟨rfl, rfl⟩

end FirstName

end Registry

end Interning
