import Interning.Proofs.ScopeCounts
import Mathlib.Data.List.Perm.Subperm

/-!
# Tables whose records are overwritten

The invariant of a registry's table rests on its setup: the operators come first, and the sequence
starts above their range and is never set back. A table by itself promises none of this. Its counter
starts at zero, so that the first identifiers read as operators', and the sequence may be set
anywhere, so that an identifier may be given out again and its record overwritten
(`Table.run_restart`).

What is left is one half of the correspondence. A text is written once, since every write is at a
text that has no identifier: `Table.Change` is such a write, or a change of nothing but the counter
and the counts, and `Table.changes_perform` reads every operation as changes in turn. So a text
keeps its identifier, and a record, whatever it overwrites, is that of a text which looks up to it
(`Table.Anchored`). `Table.lastingLookups_run` states what follows for every run on an empty table.
-/

set_option autoImplicit false
set_option relaxedAutoImplicit false

namespace Interning

namespace Table

/-! ### Changes of a table -/

/-- One change of a table: the two maps stay as they are, or a text without an identifier is
recorded. Nothing is said about the identifier, which may have a record. -/
inductive Change (table : Table) : Table → Prop
  | keep {after : Table} (hidOf : after.idOf = table.idOf) (htextOf : after.textOf = table.textOf) :
      Change table after
  | insert {text : Text} (hnone : table.lookup text = none) (id : SymbolId) :
      Change table (table.insert text id)

/-- Changes in turn. -/
def Changes : Table → Table → Prop :=
  Relation.ReflTransGen Change

variable {table after : Table} {text : Text} {id : SymbolId}

theorem Changes.refl (table : Table) : table.Changes table :=
  Relation.ReflTransGen.refl

theorem Changes.trans {last : Table} (h : table.Changes after) (hlast : after.Changes last) :
    table.Changes last :=
  Relation.ReflTransGen.trans h hlast

theorem Change.changes (h : table.Change after) : table.Changes after :=
  Relation.ReflTransGen.single h

theorem SameNames.changes (h : table.SameNames after) : table.Changes after :=
  Change.changes (.keep h.idOf_eq h.textOf_eq)

theorem changes_startSequence (table : Table) (floor : UInt64) :
    table.Changes (table.startSequence floor) :=
  Change.changes (.keep rfl rfl)

theorem changes_register (table : Table) (token : Token) :
    table.Changes (table.register token) := by
  unfold register
  split
  · exact .refl table
  · next hnone => exact Change.changes (.insert hnone token.id)

theorem changes_fresh (table : Table) (scope : Scope) : table.Changes (table.fresh scope).2 := by
  unfold fresh
  split
  · exact Change.changes (.keep rfl rfl)
  · exact .refl table

theorem sameNames_countRace (table : Table) : table.SameNames table.countRace :=
  sameNames_count table _

theorem changes_publish (table : Table) (text : Text) (id : SymbolId) :
    table.Changes (table.publish text id).2 := by
  unfold publish
  split
  · exact (sameNames_countRace table).changes
  · next hnone => exact Change.changes (.insert hnone id)

/-- The identifier for a text is found by changes, if what stands before the sign of a setter is
interned by changes. -/
theorem changes_allocate
    (hbase : classify text = .setter → table.Changes (table.intern text.dropLast).2) :
    table.Changes (table.allocate text).2 := by
  unfold allocate
  split
  · next hscope =>
    specialize hbase hscope
    split
    · next reader middle hintern =>
      rw [hintern] at hbase
      split
      · exact hbase
      · exact hbase.trans (changes_fresh middle .junk)
    · exact hbase
  · split
    · exact .refl table
    · exact changes_fresh table .junk
  · exact changes_fresh table _

/-- Interning looks a text up, or counts, allocates and publishes. -/
theorem changes_intern_of_base
    (hbase : classify text = .setter →
      table.countMiss.Changes (table.countMiss.intern text.dropLast).2) :
    table.Changes (table.intern text).2 := by
  cases hlookup : table.lookup text with
  | some id =>
    rw [intern_of_lookup_eq_some hlookup]
    exact (sameNames_countHit table).changes
  | none =>
    have hmiss := (sameNames_countMiss table).changes
    have hallocate := hmiss.trans (changes_allocate hbase)
    rw [intern_of_lookup_eq_none hlookup]
    split
    · next id middle hmiddle =>
      rw [hmiddle] at hallocate
      exact hallocate.trans (changes_publish middle text id)
    · exact hallocate

/-- The induction follows the recursion, which goes from a setter to what stands before its
sign. -/
theorem changes_intern (table : Table) (text : Text) : table.Changes (table.intern text).2 := by
  induction text using List.reverseRecOn generalizing table with
  | nil =>
    exact changes_intern_of_base fun hscope ↦ absurd rfl (ne_nil_of_classify_eq_setter hscope)
  | append_singleton base c ih =>
    refine changes_intern_of_base fun _ ↦ ?_
    rw [List.dropLast_concat]
    exact ih table.countMiss

theorem Steps.changes (h : table.Steps after) : table.Changes after := by
  refine h.preserves ?_ ?_ (.refl table)
  · intro before text hbefore
    exact hbefore.trans (changes_intern before text)
  · intro before hbefore
    exact hbefore.trans (sameNames_countDerived before).changes

theorem changes_record (table : Table) (id : SymbolId) : table.Changes (table.record id).2 :=
  (steps_record table id).changes

theorem resolve_snd (table : Table) (id : SymbolId) :
    (table.resolve id).2 = (table.record id).2 := by
  unfold resolve
  split <;> next hrecord => rw [hrecord]

/-- Every operation is changes in turn, whatever it answers. -/
theorem changes_perform (table : Table) (operation : TableOperation) :
    table.Changes (table.perform operation).2 := by
  cases operation <;> simp only [perform, Registry.ofOutcome_snd, resolve_snd]
  case register token => exact changes_register table token
  case startSequence floor => exact changes_startSequence table floor
  case intern text => exact changes_intern table text
  case resolve id => exact changes_record table id
  case record id => exact changes_record table id
  all_goals exact .refl table

theorem changes_run (table : Table) (operations : List TableOperation) :
    table.Changes (table.run operations) := by
  induction operations generalizing table with
  | nil => exact .refl table
  | cons operation rest ih => exact (changes_perform table operation).trans (ih _)

/-! ### What changes keep -/

/-- No text loses its identifier or is given another. -/
theorem Changes.lookup_eq (h : table.Changes after) (hlookup : table.lookup text = some id) :
    after.lookup text = some id := by
  induction h with
  | refl => exact hlookup
  | tail _ hchange ih =>
    cases hchange with
    | keep hidOf _ => rwa [lookup, hidOf]
    | insert hnone other =>
      rw [lookup_insert, if_neg, ih]
      rintro rfl
      rw [ih] at hnone
      exact absurd hnone (by simp)

/-- A record is that of a text which looks up to its identifier, and what is looked up has a
record. -/
structure Anchored (table : Table) : Prop where
  lookup_of_get? : ∀ id record, table.get? id = some record → table.lookup record.text = some id
  contains_of_lookup : ∀ text id, table.lookup text = some id → table.contains id = true

theorem anchored_empty (counting : Bool) : (empty counting).Anchored where
  lookup_of_get? id record hget := by
    rw [get?_empty] at hget
    exact absurd hget (by simp)
  contains_of_lookup text id hlookup := by
    rw [lookup_empty] at hlookup
    exact absurd hlookup (by simp)

/-- A write keeps the table anchored, also when it overwrites a record: the record that is lost is
that of another text, and the identifier has the record of the text that is written. -/
theorem Anchored.change (h : table.Anchored) (hchange : table.Change after) : after.Anchored := by
  cases hchange with
  | keep hidOf htextOf =>
    constructor
    case lookup_of_get? =>
      intro id record hget
      rw [get?, htextOf] at hget
      rw [lookup, hidOf]
      exact h.lookup_of_get? id record hget
    case contains_of_lookup =>
      intro text id hlookup
      rw [lookup, hidOf] at hlookup
      rw [contains, htextOf]
      exact h.contains_of_lookup text id hlookup
  | @insert text hnone id =>
    constructor
    case lookup_of_get? =>
      intro other record hget
      rw [get?_insert] at hget
      by_cases hid : id = other
      · rw [if_pos hid, Option.some.injEq] at hget
        subst hget
        rw [lookup_insert, if_pos rfl, hid]
      · rw [if_neg hid] at hget
        exact (Change.insert hnone id).changes.lookup_eq (h.lookup_of_get? other record hget)
    case contains_of_lookup =>
      intro other otherId hlookup
      rw [lookup_insert] at hlookup
      rw [contains_eq_isSome_get?, get?_insert]
      by_cases hid : id = otherId
      · rw [if_pos hid, Option.isSome_some]
      · have htext : text ≠ other := by
          rintro rfl
          exact hid (by simpa using hlookup)
        rw [if_neg htext] at hlookup
        rw [if_neg hid, ← contains_eq_isSome_get?]
        exact h.contains_of_lookup other otherId hlookup

theorem Anchored.changes (h : table.Anchored) (hchanges : table.Changes after) :
    after.Anchored := by
  induction hchanges with
  | refl => exact h
  | tail _ hchange ih => exact ih.change hchange

theorem anchored_run (counting : Bool) (operations : List TableOperation) :
    ((empty counting).run operations).Anchored :=
  (anchored_empty counting).changes (changes_run _ operations)

/-- No two records are those of one text. -/
theorem Anchored.nodup_texts (h : table.Anchored) : table.texts.Nodup := by
  refine (nodup_records table).map_on fun record hrecord other hother htext ↦ ?_
  have hlookup := h.lookup_of_get? _ _ (mem_records_iff.mp hrecord)
  rw [htext, h.lookup_of_get? _ _ (mem_records_iff.mp hother)] at hlookup
  cases record
  cases other
  simp_all

/-- The texts that have an identifier. -/
def knownTexts (table : Table) : List Text :=
  table.idOf.keys

theorem mem_knownTexts_iff : text ∈ table.knownTexts ↔ (table.lookup text).isSome = true := by
  rw [knownTexts, Std.TreeMap.mem_keys, Std.TreeMap.mem_iff_isSome_getElem?, lookup]

theorem nodup_knownTexts (table : Table) : table.knownTexts.Nodup :=
  Std.TreeMap.nodup_keys

/-- The texts of records are known, so there are no more records than known texts. -/
theorem Anchored.size_le (h : table.Anchored) : table.size ≤ table.knownTexts.length := by
  have hsubset : table.texts ⊆ table.knownTexts := by
    intro text htext
    obtain ⟨record, hrecord, rfl⟩ := List.mem_map.mp htext
    rw [mem_knownTexts_iff, h.lookup_of_get? _ _ (mem_records_iff.mp hrecord), Option.isSome_some]
  have hlength := (List.subperm_of_subset h.nodup_texts hsubset).length_le
  rwa [texts, List.length_map, length_records] at hlength

/-- A new name that is interned right after a floor takes the number above it, whatever has an
identifier with this number. -/
theorem run_startSequence_intern {sequence : UInt64} (hplain : IsPlain text)
    (hnone : table.lookup text = none) (hsequence : sequence < SymbolId.maxSequence) :
    let id := SymbolId.dynamic (sequence + 1) (classify text)
    let after := table.run [.startSequence sequence, .intern text]
    (∀ name, after.lookup name = if text = name then some id else table.lookup name) ∧
      after.get? id = some ⟨id, text⟩ := by
  intro id after
  let started := table.startSequence sequence
  have hsame := sameNames_countMiss started
  have hstarted : started.intern text = (.ok id, started.countMiss.recordPlain text) :=
    intern_plain hnone hplain hsequence
  have hintern : after = started.countMiss.recordPlain text :=
    (Registry.ofOutcome_snd Answer.symbol _).trans (congrArg Prod.snd hstarted)
  constructor
  · intro name
    rw [hintern, lookup_recordPlain, hsame.lookup_eq, hsame.lastSequence_eq]
    rfl
  · rw [hintern, recordPlain, hsame.lastSequence_eq]
    exact (get?_insert _ text id id).trans (if_pos rfl)

/-- Restarting the sequence overwrites records: two new names of one scope that are interned after
the same floor share their identifier, and its record is that of the second. -/
theorem run_restart {other : Text} {sequence : UInt64} (hplain : IsPlain text)
    (hscope : classify other = classify text) (htext : table.lookup text = none)
    (hother : table.lookup other = none) (hne : text ≠ other)
    (hsequence : sequence < SymbolId.maxSequence) :
    let id := SymbolId.dynamic (sequence + 1) (classify text)
    let last := table.run
      [.startSequence sequence, .intern text, .startSequence sequence, .intern other]
    last.lookup text = some id ∧ last.lookup other = some id ∧
      last.get? id = some ⟨id, other⟩ := by
  intro id last
  obtain ⟨hfirst, -⟩ := run_startSequence_intern hplain htext hsequence
  have hplain' : IsPlain other := by rwa [IsPlain, hscope]
  have hother' := (hfirst other).trans ((if_neg hne).trans hother)
  obtain ⟨hsecond, hget⟩ := run_startSequence_intern hplain' hother' hsequence
  rw [hscope] at hsecond hget
  refine ⟨?_, (hsecond other).trans (if_pos rfl), hget⟩
  calc last.lookup text = _ := (hsecond text).trans (if_neg hne.symm)
    _ = some id := (hfirst text).trans (if_pos rfl)

/-! ### Runs -/

/-- What is left of the correspondence between texts and identifiers, whatever is done. -/
structure LastingLookups (table : Table) : Prop where
  /-- An identifier with a record is the one that the text of the record looks up to. -/
  exists_record : ∀ id, table.contains id = true →
    ∃ record, table.get? id = some record ∧ record.id = id ∧ table.lookup record.text = some id
  contains_of_lookup : ∀ text id, table.lookup text = some id → table.contains id = true
  /-- A text keeps its identifier. -/
  lookup_run : ∀ text id, table.lookup text = some id → ∀ operations,
    (table.run operations).lookup text = some id
  /-- An interned text is answered the same ever after, and nothing is recorded for it again. -/
  intern_run : ∀ text id after, table.intern text = (.ok id, after) → ∀ operations,
    (after.run operations).intern text = (.ok id, (after.run operations).countHit)
  /-- There are no more records than texts with an identifier, of which none is counted twice. -/
  size_le : table.size ≤ table.knownTexts.length ∧ table.knownTexts.Nodup

/-- A text looks up to the identifier that it was published under, or had already. -/
theorem lookup_publish (table : Table) (text : Text) (id : SymbolId) :
    (table.publish text id).2.lookup text = some (table.publish text id).1 := by
  cases hlookup : table.lookup text with
  | none => rw [publish_of_lookup_eq_none hlookup, lookup_insert, if_pos rfl]
  | some taken =>
    have hpublish : table.publish text id = (taken, table.countRace) := by
      rw [publish, hlookup]
    rw [hpublish]
    exact ((sameNames_countRace table).lookup_eq text).trans hlookup

theorem lookup_of_intern_eq_ok (hintern : table.intern text = (.ok id, after)) :
    after.lookup text = some id := by
  cases hlookup : table.lookup text with
  | some known =>
    rw [intern_of_lookup_eq_some hlookup] at hintern
    obtain ⟨hid, rfl⟩ := Prod.mk.inj hintern
    rw [(sameNames_countHit table).lookup_eq, hlookup, Except.ok.inj hid]
  | none =>
    rw [intern_of_lookup_eq_none hlookup] at hintern
    split at hintern
    · next allocated middle _ =>
      obtain ⟨hid, rfl⟩ := Prod.mk.inj hintern
      rw [lookup_publish, Except.ok.inj hid]
    · next hfailed =>
      exact (hfailed id after hintern).elim

/-- However a table came about from the empty one, lookups last. Operators may be registered under
any identifiers and at any time, and the sequence may start anywhere and more than once. -/
theorem lastingLookups_run (counting : Bool) (operations : List TableOperation) :
    ((empty counting).run operations).LastingLookups := by
  have hanchored := anchored_run counting operations
  generalize (empty counting).run operations = table at hanchored
  constructor
  case exists_record =>
    intro id hcontains
    rw [contains_eq_isSome_get?, Option.isSome_iff_exists] at hcontains
    obtain ⟨record, hget⟩ := hcontains
    obtain ⟨hid, -⟩ := get?_eq_some_iff.mp hget
    exact ⟨record, hget, hid, hanchored.lookup_of_get? id record hget⟩
  case contains_of_lookup => exact hanchored.contains_of_lookup
  case lookup_run =>
    intro text id hlookup more
    exact (changes_run table more).lookup_eq hlookup
  case intern_run =>
    intro text id after hintern more
    have hlookup := (changes_run after more).lookup_eq (lookup_of_intern_eq_ok hintern)
    exact intern_of_lookup_eq_some hlookup
  case size_le => exact ⟨hanchored.size_le, nodup_knownTexts table⟩

end Table

end Interning
