import Interning.Proofs.RegistrySteps
import Interning.Proofs.ResolutionOutcome

/-!
# Identifiers as handles of texts

Holders of an identifier rely on the table to pair texts with identifiers one to one. The map of
identifiers is written without looking at what stands there, so this is no property of a single
write: it rests on the invariant, by which every identifier that is written is free.

`Registry.SoundHandles` lists what is relied on, and `Registry.soundHandles_run` proves it of every
registry that a checked setup and operations on it lead to. The operations include those that fail:
an identifier without a name leaves the names alone or records one more, and an exhausted interning
leaves the names alone.
-/

set_option autoImplicit false
set_option relaxedAutoImplicit false

namespace Interning

namespace Table

variable {floor : UInt64} {table after : Table} {text other : Text} {id : SymbolId}

/-- Two texts with one identifier are one text. -/
theorem WellFormed.text_eq_of_lookup (h : table.WellFormed floor)
    (htext : table.lookup text = some id) (hother : table.lookup other = some id) :
    text = other := by
  have hget := (h.get?_iff text id).mpr htext
  rw [(h.get?_iff other id).mpr hother] at hget
  exact (congrArg Record.text (Option.some.inj hget)).symm

theorem WellFormed.lookup_of_intern (h : table.WellFormed floor)
    (hintern : table.intern text = (.ok id, after)) : after.lookup text = some id := by
  have hinterns := h.interns text
  rw [hintern] at hinterns
  exact hinterns.lookup_eq

end Table

namespace Registry

/-- What the holders of a registry's identifiers rely on. -/
structure SoundHandles (registry : Registry) : Prop where
  /-- A text has an identifier exactly where the identifier has the record of the text. -/
  lookup_iff : ∀ text id,
    registry.lookup text = some id ↔ registry.table.get? id = some ⟨id, text⟩
  /-- Distinct texts have distinct identifiers. -/
  id_ne : ∀ text other id otherId, registry.lookup text = some id →
    registry.lookup other = some otherId → text ≠ other → id ≠ otherId
  /-- An interned text is what its identifier resolves to. -/
  resolve_of_intern : ∀ text id after, registry.intern text = (.ok id, after) →
    after.resolve id = (.ok text, after)
  /-- Interning a text once more answers the same and records nothing. -/
  intern_again : ∀ text id after, registry.intern text = (.ok id, after) →
    (after.intern text).1 = .ok id ∧ (after.intern text).2.records = after.records ∧
      ∀ other, (after.intern text).2.lookup other = after.lookup other

variable {floor : UInt64} {registry after : Registry} {text : Text} {id : SymbolId}

theorem table_of_intern {answer : Except Fault SymbolId}
    (hintern : registry.intern text = (answer, after)) :
    registry.table.intern text = (answer, after.table) := by
  obtain ⟨hanswer, hafter⟩ := Prod.mk.inj hintern
  rw [← hafter, ← hanswer]

theorem intern_of_lookup (hlookup : registry.lookup text = some id) :
    registry.intern text = (.ok id, { registry with table := registry.table.countHit }) := by
  rw [intern, Table.intern_of_lookup_eq_some hlookup]
  rfl

/-- The invariant of the table makes the handles sound. -/
theorem soundHandles_of_wellFormed (h : registry.table.WellFormed floor) :
    registry.SoundHandles := by
  constructor
  case lookup_iff =>
    intro text id
    exact (h.get?_iff text id).symm
  case id_ne =>
    rintro text other id _ htext hother hne rfl
    exact hne (h.text_eq_of_lookup htext hother)
  case resolve_of_intern =>
    intro text id after hintern
    have htable := table_of_intern hintern
    have hafter : after.table.WellFormed floor := by
      have hstep := ((h.interns text).grows h).wellFormed
      rwa [htable] at hstep
    rw [resolve, hafter.resolve_of_lookup (h.lookup_of_intern htable)]
    rfl
  case intern_again =>
    intro text id after hintern
    have hlookup := h.lookup_of_intern (table_of_intern hintern)
    have hsame := Table.sameNames_countHit after.table
    rw [intern_of_lookup hlookup]
    exact ⟨rfl, hsame.records_eq, hsame.lookup_eq⟩

/-- Whatever is done with the registry of a checked setup, its handles are sound. -/
theorem soundHandles_run {config : RegistryConfig} {start : Registry}
    (hstart : Registry.create config = .ok start) (operations : List Operation) :
    (start.run operations).SoundHandles :=
  soundHandles_of_wellFormed ((Reachable.create hstart).run operations).wellFormed

theorem default_resolve_of_intern : ∃ start after,
    Registry.create (.default ⟨8⟩) = .ok start ∧
      (start.run [.intern ['a']]).intern ['a'] = (.ok ⟨8008⟩, after) ∧
      after.resolve ⟨8008⟩ = (.ok ['a'], after) := by
  have hplain : IsPlain ['a'] := by
    constructor <;> decide
  have hintern := intern_of_lookup (numbers_run_intern create_default hplain).lookup_eq
  exact ⟨_, _, create_default, hintern,
    (soundHandles_run create_default [.intern ['a']]).resolve_of_intern _ _ _ hintern⟩

end Registry

end Interning
