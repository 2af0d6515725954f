import Interning.Proofs.SetterPairs
import Mathlib.Algebra.Ring.Nat
import Mathlib.Data.List.Nodup

/-!
# Identifiers carry the scope of their names

The scope of an identifier is written when its name is recorded, as a tag or by the operators'
range, and read back without the name. `Table.WellFormed.scope_eq` shows that the reading is what
the classifier says of the name; this module draws the consequences for the summary of a registry,
which counts identifiers by the scope they carry.

`sum_countP_scope` is the partition: every identifier carries one of the eight scopes, so the counts
add up. `Table.WellFormed.nodup_texts` makes the number of records a number of texts, and
`Table.WellFormed.perm_operators` finds every operator among the records once.
`Registry.SoundScopes` lists what holds of a registry, and `Registry.Reachable.soundScopes` proves
it of every registry that operations lead to.
-/

set_option autoImplicit false
set_option relaxedAutoImplicit false

namespace Interning

/-- Counted by scope, identifiers are counted once. -/
theorem sum_countP_scope (ids : List SymbolId) :
    (Scope.all.map fun scope ↦ ids.countP (·.scope == scope)).sum = ids.length := by
  induction ids with
  | nil => rfl
  | cons id rest ih =>
    simp only [Scope.all, List.map_cons, List.map_nil, List.sum_cons, List.sum_nil,
      List.countP_cons, List.length_cons] at ih ⊢
    cases id.scope <;> simp <;> omega

namespace Table

variable {floor : UInt64} {table : Table}

/-- The texts of the records. -/
def texts (table : Table) : List Text :=
  table.records.map Record.text

theorem WellFormed.mem_texts_iff (h : table.WellFormed floor) {text : Text} :
    text ∈ table.texts ↔ (table.lookup text).isSome = true := by
  rw [texts, List.mem_map, Option.isSome_iff_exists]
  constructor
  · rintro ⟨record, hrecord, rfl⟩
    exact ⟨record.id, h.lookup_of_mem hrecord⟩
  · rintro ⟨id, hlookup⟩
    exact ⟨⟨id, text⟩, mem_records_iff.mpr ((h.get?_iff text id).mpr hlookup), rfl⟩

theorem nodup_records (table : Table) : table.records.Nodup := by
  have hids := nodup_ids table
  rw [ids_eq_map_records] at hids
  exact hids.of_map

theorem length_records (table : Table) : table.records.length = table.size := by
  rw [← length_ids, ids_eq_map_records, List.length_map]

theorem countScope_eq_countP_records (table : Table) (scope : Scope) :
    table.countScope scope = table.records.countP (·.id.scope == scope) := by
  rw [countScope, ids_eq_map_records, List.countP_map]
  rfl

/-- No text is recorded twice. -/
theorem WellFormed.nodup_texts (h : table.WellFormed floor) : table.texts.Nodup :=
  (nodup_records table).map_on fun _ hrecord _ hother ↦ h.eq_of_text_eq hrecord hother

/-- The number of records of a scope is the number of recorded texts of that scope. -/
theorem WellFormed.countScope_eq (h : table.WellFormed floor) (scope : Scope) :
    table.countScope scope = table.texts.countP (classify · == scope) := by
  rw [countScope_eq_countP_records, texts, List.countP_map]
  refine List.countP_congr fun record hrecord ↦ ?_
  simp only [Function.comp_apply, h.scope_eq (h.lookup_of_mem hrecord)]

/-- The recorded texts of the operators' scope are the operators. -/
theorem WellFormed.perm_operators (h : table.WellFormed floor) :
    (table.texts.filter (classify · == .operator)).Perm (Token.all.map Token.text) := by
  have hdistinct : (Token.all.map Token.text).Nodup := by decide
  refine (List.perm_ext_iff_of_nodup (h.nodup_texts.filter _) hdistinct).mpr fun text ↦ ?_
  simp only [List.mem_filter, beq_iff_eq, List.mem_map, classify_eq_operator_iff]
  constructor
  · rintro ⟨-, htoken⟩
    exact htoken
  · rintro ⟨token, htoken, rfl⟩
    refine ⟨h.mem_texts_iff.mpr ?_, token, htoken, rfl⟩
    rw [h.operator token htoken]
    rfl

theorem WellFormed.countScope_operator (h : table.WellFormed floor) :
    table.countScope .operator = Token.all.length := by
  rw [h.countScope_eq, List.countP_eq_length_filter, h.perm_operators.length_eq, List.length_map]

end Table

namespace Registry

/-- The identifiers of a registry carry the scopes of their names, and its summary counts
names. -/
structure SoundScopes (registry : Registry) : Prop where
  scope_eq : ∀ record ∈ registry.records, record.id.scope = classify record.text
  /-- Asked for the scope, an identifier and its name have the same answer. -/
  perform_eq : ∀ record ∈ registry.records,
    registry.perform (.scopeOf record.id) = registry.perform (.classify record.text)
  /-- The texts that are counted below are the recorded ones, each once. -/
  nodup_texts : registry.table.texts.Nodup
  mem_texts_iff : ∀ text, text ∈ registry.table.texts ↔ (registry.lookup text).isSome = true
  perScope_eq : ∀ scope,
    registry.stats.perScope scope = registry.table.texts.countP (classify · == scope)
  sum_histogram : (registry.stats.histogram.map Prod.snd).sum = registry.size
  perScope_operator : registry.stats.perScope .operator = Token.all.length

variable {registry : Registry}

/-- However a registry was reached, its identifiers carry the scopes of their names. -/
theorem Reachable.soundScopes (h : registry.Reachable) : registry.SoundScopes := by
  have htable := h.wellFormed
  have hscope : ∀ record ∈ registry.records, record.id.scope = classify record.text :=
    fun record hrecord ↦ htable.scope_eq (htable.lookup_of_mem hrecord)
  constructor
  case scope_eq => exact hscope
  case perform_eq =>
    intro record hrecord
    simp only [Registry.perform, hscope record hrecord]
  case nodup_texts => exact htable.nodup_texts
  case mem_texts_iff =>
    intro text
    exact htable.mem_texts_iff
  case perScope_eq =>
    intro scope
    exact htable.countScope_eq scope
  case sum_histogram =>
    have hcounts : registry.stats.histogram.map Prod.snd =
        Scope.all.map fun scope ↦ registry.table.ids.countP (·.scope == scope) := by
      rw [Stats.histogram, List.map_map]
      rfl
    rw [hcounts, sum_countP_scope, Table.length_ids]
    rfl
  case perScope_operator => exact htable.countScope_operator

theorem default_perScope : ∃ start, Registry.create (.default ⟨8⟩) = .ok start ∧
    (start.run [.intern ['a']]).Reachable ∧
      ⟨⟨8008⟩, ['a']⟩ ∈ (start.run [.intern ['a']]).records ∧
        (⟨8008⟩ : SymbolId).scope = classify ['a'] ∧
          (start.run [.intern ['a']]).stats.perScope .operator = 31 := by
  have hplain : IsPlain ['a'] := by
    constructor <;> decide
  have hreachable := (Reachable.create create_default).run [.intern ['a']]
  have hlookup := (numbers_run_intern create_default hplain).lookup_eq
  have hrecord : ⟨⟨8008⟩, ['a']⟩ ∈ ((bootstrap (.default ⟨8⟩)).run [.intern ['a']]).records :=
    Table.mem_records_iff.mpr ((hreachable.wellFormed.get?_iff _ _).mpr hlookup)
  have hsound := Reachable.soundScopes hreachable
  exact ⟨_, create_default, hreachable, hrecord, hsound.scope_eq _ hrecord,
    hsound.perScope_operator⟩

end Registry

end Interning
