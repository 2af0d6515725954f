import Interning.Proofs.DerivableSetters
import Interning.Proofs.SequenceNumbers

/-!
# When the sequence numbers run out

Only a name that needs a number of its own can find none. So an interning fails in one situation:
the last number has been given out, the text has no record, and it is no setter whose name is
recorded, since such a setter needs no number. `Table.WellFormed.intern_eq_error_iff` proves this
for every table that satisfies the invariant, although the failure may come from the name before a
setter's sign, when the interning of the setter has begun already.

A failed interning has counted misses and has changed nothing else (`Table.OnlyMissed`). The text
stays without a record whatever is done next, because the last number is given out once
(`Table.WellFormed.lookup_eq_none_of_exhausted`), and identifiers keep their names.
`Registry.Reachable.intern_exhausted_iff` puts this together.
-/

set_option autoImplicit false
set_option relaxedAutoImplicit false

namespace Interning

namespace Table

variable {floor : UInt64} {table after : Table} {text : Text}

/-! ### Tables that have counted misses -/

/-- A table is as it was, apart from misses that it has counted. -/
structure OnlyMissed (table after : Table) : Prop where
  sameNames : table.SameNames after
  counting_eq : after.counting = table.counting
  counters_eq : after.counters = { table.counters with misses := after.counters.misses }
  misses_le : table.counters.misses ≤ after.counters.misses

theorem OnlyMissed.trans {last : Table} (h : table.OnlyMissed after)
    (hlast : after.OnlyMissed last) : table.OnlyMissed last where
  sameNames := h.sameNames.trans hlast.sameNames
  counting_eq := hlast.counting_eq.trans h.counting_eq
  counters_eq := by rw [hlast.counters_eq, h.counters_eq]
  misses_le := Nat.le_trans h.misses_le hlast.misses_le

theorem onlyMissed_countMiss (table : Table) : table.OnlyMissed table.countMiss := by
  constructor
  case sameNames => exact sameNames_countMiss table
  all_goals
    unfold countMiss count
    split <;> simp

/-! ### Internings that fail -/

/-- An interning that fails has counted misses and has changed nothing else. -/
theorem WellFormed.onlyMissed_of_intern_eq_error (h : table.WellFormed floor) {fault : Fault}
    (hintern : table.intern text = (.error fault, after)) :
    fault = .exhausted table.lastSequence ∧ table.OnlyMissed after := by
  have hinterns := h.interns text
  rw [hintern] at hinterns
  cases hinterns with
  | plainExhausted => exact ⟨rfl, onlyMissed_countMiss table⟩
  | setterExhausted =>
    exact ⟨rfl, (onlyMissed_countMiss table).trans (onlyMissed_countMiss table.countMiss)⟩

/-- An interning fails exactly when the text is new, needs a number, and none is left. -/
theorem WellFormed.intern_eq_error_iff (h : table.WellFormed floor) :
    (∃ fault, (table.intern text).1 = .error fault) ↔
      table.lookup text = none ∧ table.lastSequence = SymbolId.maxSequence ∧
        ¬ (classify text = .setter ∧ (table.lookup text.dropLast).isSome = true) := by
  have hinterns := h.interns text
  generalize table.intern text = outcome at hinterns ⊢
  constructor
  · rintro ⟨fault, hfault⟩
    cases hinterns with
    | plainExhausted hnone hplain hlast =>
      exact ⟨hnone, h.lastSequence_eq_of_not_lt hlast, fun hsetter ↦ hplain.2 hsetter.1⟩
    | setterExhausted hnone hscope hbase hlast =>
      refine ⟨hnone, h.lastSequence_eq_of_not_lt hlast, ?_⟩
      rw [List.dropLast_concat, hbase]
      simp
    | _ => simp at hfault
  · rintro ⟨hnone, hlast, hsetter⟩
    have hfull : ¬ table.lastSequence < SymbolId.maxSequence := by
      rw [hlast]
      exact UInt64.lt_irrefl _
    cases hinterns with
    | known hlookup => exact absurd (hnone.symm.trans hlookup) (by simp)
    | plain _ _ hlt => exact absurd hlt hfull
    | setter _ hscope hnumber =>
      rw [List.dropLast_concat, hnumber.lookup_eq] at hsetter
      exact absurd ⟨hscope, rfl⟩ hsetter
    | setterAndBase _ _ _ hlt => exact absurd hlt hfull
    | plainExhausted => exact ⟨_, rfl⟩
    | setterExhausted => exact ⟨_, rfl⟩

/-- A name that needs a number stays without a record once no number is left. -/
theorem WellFormed.lookup_eq_none_of_exhausted (h : table.WellFormed floor)
    (hgrows : table.Grows floor after) (hlast : table.lastSequence = SymbolId.maxSequence)
    (hnone : table.lookup text = none)
    (hsetter : ¬ (classify text = .setter ∧ (table.lookup text.dropLast).isSome = true)) :
    after.lookup text = none := by
  have hafter := hgrows.wellFormed
  -- A number of its own would be larger than the largest.
  have hunnumbered {name : Text} {sequence : UInt64} (hname : table.lookup name = none) :
      ¬ after.Numbers floor name sequence := fun hnumber ↦ by
    have hlt := h.lt_of_lookup_eq_none hgrows hnumber hname
    rw [hlast] at hlt
    exact absurd hlt (UInt64.not_lt.mpr (hnumber.high hafter))
  by_contra hlookup
  obtain ⟨id, hid⟩ := Option.ne_none_iff_exists'.mp hlookup
  rcases h.isPlain_or_setter hnone with hplain | hscope
  · obtain ⟨sequence, hnumber, -⟩ := hafter.exists_numbers hplain hid
    exact hunnumbered hnone hnumber
  · obtain ⟨base, rfl, -, -⟩ := exists_base_of_classify_eq_setter hscope
    obtain ⟨sequence, hnumber, -⟩ := hafter.numbers_of_lookup_setter hscope hid
    rw [List.dropLast_concat] at hsetter
    have hbase : table.lookup base = none := by simpa [hscope] using hsetter
    exact hunnumbered hbase hnumber

end Table

namespace Registry

/-- An interning has failed for want of a sequence number and has left the registry as it was,
apart from the misses that it has counted. -/
structure FailsUnchanged (registry : Registry) (text : Text) (fault : Fault) (after : Registry) :
    Prop where
  fault_eq : fault = .exhausted SymbolId.maxSequence
  message_eq : fault.message =
    "symbol sequence space exhausted (last sequence 2305843009213693951)".toList
  config_eq : after.config = registry.config
  onlyMissed : registry.table.OnlyMissed after.table
  /-- The text has no record, and will have none whatever is done. -/
  lookup_eq_none : ∀ operations, (after.run operations).lookup text = none
  /-- Neither has the name before the sign, if the text is a setter. -/
  lookup_dropLast_eq_none : classify text = .setter →
    ∀ operations, (after.run operations).lookup text.dropLast = none
  /-- An identifier that had a name keeps it. -/
  resolve_eq : ∀ id name, (registry.resolve id).1 = .ok name →
    ∀ operations, ((after.run operations).resolve id).1 = .ok name

variable {floor : UInt64} {registry after : Registry} {text : Text}

theorem failsUnchanged_of_intern (h : registry.table.WellFormed floor) {fault : Fault}
    (hintern : registry.intern text = (.error fault, after)) :
    registry.FailsUnchanged text fault after := by
  have htable := table_of_intern hintern
  obtain ⟨hnone, hlast, hsetter⟩ := h.intern_eq_error_iff.mp ⟨fault, congrArg Prod.fst htable⟩
  obtain ⟨hfault, hmissed⟩ := h.onlyMissed_of_intern_eq_error htable
  rw [hlast] at hfault
  have hgrows (operations : List Operation) :
      registry.table.Grows floor (after.run operations).table := by
    have hmiss := h.grows hmissed.sameNames
    exact hmiss.trans ((steps_run after operations).table.grows hmiss.wellFormed)
  constructor
  case fault_eq => exact hfault
  case message_eq =>
    rw [hfault]
    decide +kernel
  case config_eq => exact (congrArg (·.2.config) hintern).symm
  case onlyMissed => exact hmissed
  case lookup_eq_none =>
    intro operations
    exact h.lookup_eq_none_of_exhausted (hgrows operations) hlast hnone hsetter
  case lookup_dropLast_eq_none =>
    intro hscope operations
    have hbase : registry.table.lookup text.dropLast = none := by simpa [hscope] using hsetter
    obtain ⟨base, rfl, -, -⟩ := exists_base_of_classify_eq_setter hscope
    rw [List.dropLast_concat] at hbase ⊢
    exact h.lookup_eq_none_of_exhausted (hgrows operations) hlast hbase
      fun hsetter ↦ (Table.isPlain_of_classify_eq_setter hscope).2 hsetter.1
  case resolve_eq =>
    intro id name hresolve operations
    rw [resolve_eq_ok_iff h] at hresolve
    rw [resolve_eq_ok_iff (hgrows operations).wellFormed]
    exact hresolve.of_extends (hgrows operations).extends_table

/-- An interning fails exactly when the text has no record, the last sequence number has been given
out, and the text is no setter of a recorded name; and then it changes nothing but the misses. -/
theorem Reachable.intern_exhausted_iff (h : registry.Reachable) (text : Text) :
    ((∃ fault, (registry.intern text).1 = .error fault) ↔
        registry.lookup text = none ∧ registry.table.lastSequence.toNat = 2 ^ 61 - 1 ∧
          ¬ (classify text = .setter ∧ (registry.lookup text.dropLast).isSome = true)) ∧
      ∀ fault after, registry.intern text = (.error fault, after) →
        registry.FailsUnchanged text fault after := by
  have hmax : registry.table.lastSequence = SymbolId.maxSequence ↔
      registry.table.lastSequence.toNat = 2 ^ 61 - 1 := UInt64.toNat_inj.symm
  constructor
  · rw [← hmax]
    exact h.wellFormed.intern_eq_error_iff
  · intro fault after hintern
    exact failsUnchanged_of_intern h.wellFormed hintern

/-- With the last number given out, a setter fails with its name, and the setter of a recorded name
does not. -/
theorem highest_intern_exhausted : ∃ start,
    Registry.create { RegistryConfig.default ⟨8⟩ with
        sequenceFloor := RegistryConfig.maxSequenceFloor } = .ok start ∧
      (start.run [.intern ['a']]).Reachable ∧
        (∃ fault after, (start.run [.intern ['a']]).intern ['b', '='] = (.error fault, after) ∧
          (start.run [.intern ['a']]).FailsUnchanged ['b', '='] fault after) ∧
          ¬ ∃ fault, ((start.run [.intern ['a']]).intern ['a', '=']).1 = .error fault := by
  have hcreate : Registry.create { RegistryConfig.default ⟨8⟩ with
      sequenceFloor := RegistryConfig.maxSequenceFloor } = .ok (bootstrap
        { RegistryConfig.default ⟨8⟩ with sequenceFloor := RegistryConfig.maxSequenceFloor }) :=
    create_eq_ok_iff.mpr ⟨by decide +kernel, rfl⟩
  have hreachable := (Reachable.create hcreate).run [.intern ['a']]
  have hname := Reachable.intern_exhausted_iff hreachable ['b', '=']
  have hsetter := Reachable.intern_exhausted_iff hreachable ['a', '=']
  obtain ⟨fault, hfault⟩ :=
    hname.1.mpr ⟨by decide +kernel, by decide +kernel, by decide +kernel⟩
  have hintern : ((bootstrap { RegistryConfig.default ⟨8⟩ with
      sequenceFloor := RegistryConfig.maxSequenceFloor }).run [.intern ['a']]).intern ['b', '='] =
        (.error fault, _) := Prod.ext hfault rfl
  refine ⟨_, hcreate, hreachable, ⟨fault, _, hintern, hname.2 _ _ hintern⟩, fun hfails ↦ ?_⟩
  exact absurd (hsetter.1.mp hfails).2.2 (not_not.mpr (by decide +kernel))

end Registry

end Interning
