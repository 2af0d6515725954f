import Interning.Proofs.Creations
import Interning.Proofs.RecordedTexts

/-!
# How deep an interning goes

Interning a setter interns what stands before the sign first, and nothing in the table keeps that
text from being a setter again. It may end in signs of its own, any number of them, and the
classifier settles it by walking outward along the whole run. What the classifier guarantees is
listed by `HasSetter`: a text with a sign at its end is a setter exactly if what stands before the
sign is a local name, a constant or junk, begins with neither sigil of a variable, and is neither
empty nor the lone sign (`classify_append_sign_eq_setter_iff`). Since none of these is a setter
itself, the interning before the sign has no further one to make.

`Table.internBy` is an interning with another function in the place where an interning calls itself.
Two levels of it answer as `Table.intern` does, whatever stands below them
(`Table.internBy_internBy`), and one level does so exactly where the text is no setter or has a
record (`Table.internBy_eq_intern_iff`). So an interning records the text and at most the name
before its sign, and takes at most one sequence number (`Registry.Reachable.internsSparingly`).
-/

set_option autoImplicit false
set_option relaxedAutoImplicit false

namespace Interning

/-! ### What stands before the sign of a setter -/

/-- A text whose setter is a name. -/
structure HasSetter (base : Text) : Prop where
  ne_nil : base ≠ []
  /-- A second sign makes the lone sign an operator. -/
  ne_sign : base ≠ ['=']
  isWord : IsWord base
  scope : classify base = .localName ∨ classify base = .constant ∨ classify base = .junk

variable {base : Text}

theorem HasSetter.classify_ne (h : HasSetter base) :
    classify base ≠ .setter ∧ classify base ≠ .operator := by
  rcases h.scope with hscope | hscope | hscope <;> simp [hscope]

/-- No operator is such a text with a sign: what stands before the sign of an operator is the lone
sign or an operator itself. -/
theorem HasSetter.find?_eq_none (h : HasSetter base) : Token.find? (base ++ ['=']) = none := by
  have hall : ∀ token ∈ Token.all, token.text.getLast? = some '=' →
      token.text.dropLast = ['='] ∨ classify token.text.dropLast = .operator := by decide
  rw [← Option.not_isSome_iff_eq_none, find?_isSome_iff]
  rintro ⟨token, htoken, htext⟩
  have hbefore := hall token htoken (by simp [htext])
  rw [htext, List.dropLast_concat] at hbefore
  rcases hbefore with hsign | hoperator
  · exact h.ne_sign hsign
  · exact h.classify_ne.2 hoperator

/-- A text with a sign is a setter exactly if the text has one. -/
theorem classify_append_sign_eq_setter_iff :
    classify (base ++ ['=']) = .setter ↔ HasSetter base := by
  constructor
  · intro h
    obtain ⟨other, htext, hne, hscope⟩ := exists_base_of_classify_eq_setter h
    obtain rfl := List.append_cancel_right htext
    constructor
    case ne_nil => exact hne
    case ne_sign =>
      rintro rfl
      exact absurd h (by decide)
    case isWord =>
      have hword : IsWord (base ++ ['=']) := isWord_of_classify_mem (by simp [h])
      exact hword.of_head?_eq (List.head?_append_of_ne_nil _ hne).symm
    case scope => exact hscope
  · intro h
    rw [classify_append_sign h.isWord h.ne_nil, h.find?_eq_none, if_neg (by simp), if_neg]
    exact not_or.mpr h.classify_ne

theorem classify_eq_setter_iff {text : Text} :
    classify text = .setter ↔ ∃ base, text = base ++ ['='] ∧ HasSetter base := by
  constructor
  · intro h
    obtain ⟨base, rfl, -, -⟩ := exists_base_of_classify_eq_setter h
    exact ⟨base, rfl, classify_append_sign_eq_setter_iff.mp h⟩
  · rintro ⟨base, rfl, h⟩
    exact classify_append_sign_eq_setter_iff.mpr h

namespace Table

variable {floor : UInt64} {table : Table} {text : Text} {record : Record}

/-! ### The call that an interning makes -/

/-- An interning with another function in the place where it calls itself, which it does for the
name before the sign of a setter. -/
def internBy (inner : Table → Text → Except Fault SymbolId × Table) (table : Table) (text : Text) :
    Except Fault SymbolId × Table :=
  match table.lookup text with
  | some id => (.ok id, table.countHit)
  | none =>
    let missed := table.countMiss
    let allocated : Except Fault SymbolId × Table :=
      match classify text with
      | .setter =>
        match inner missed text.dropLast with
        | (.ok base, after) =>
          match base.withScope .setter with
          | some id => (.ok id, after)
          | none => after.fresh .junk
        | failed => failed
      | .operator =>
        match Token.find? text with
        | some token => (.ok token.id, missed)
        | none => missed.fresh .junk
      | scope => missed.fresh scope
    match allocated with
    | (.ok id, after) => let (published, after) := after.publish text id; (.ok published, after)
    | failed => failed

/-- An interning has itself in that place. -/
theorem internBy_intern (table : Table) (text : Text) :
    internBy intern table text = table.intern text := by
  rw [intern, internBy]
  cases table.lookup text with
  | some id => rfl
  | none => cases classify text <;> rfl

/-- The other function is asked for one text only, what stands before the sign, and only if the text
is a setter without a record. -/
theorem internBy_congr {first second : Table → Text → Except Fault SymbolId × Table}
    (h : table.lookup text = none → classify text = .setter →
      first table.countMiss text.dropLast = second table.countMiss text.dropLast) :
    internBy first table text = internBy second table text := by
  unfold internBy
  cases hlookup : table.lookup text with
  | some id => rfl
  | none =>
    cases hscope : classify text with
    | setter => simp only [h hlookup hscope]
    | _ => rfl

/-- Where the other function is asked and fails, the interning fails with its fault. -/
theorem internBy_error (hnone : table.lookup text = none) (hscope : classify text = .setter)
    (fault : Fault) :
    internBy (fun before _ ↦ (.error fault, before)) table text =
      (.error fault, table.countMiss) := by
  rw [internBy, hnone, hscope]

/-- The interning before the sign has no use for another: what stands there is no setter. -/
theorem internBy_internBy (inner : Table → Text → Except Fault SymbolId × Table) (table : Table)
    (text : Text) : internBy (internBy inner) table text = table.intern text := by
  rw [← internBy_intern table text]
  refine internBy_congr fun _ hscope ↦ ?_
  obtain ⟨base, rfl, hbase⟩ := classify_eq_setter_iff.mp hscope
  rw [List.dropLast_concat, ← internBy_intern table.countMiss base]
  exact internBy_congr fun _ hsetter ↦ absurd hsetter hbase.classify_ne.1

/-- An interning calls itself exactly if the text is a setter without a record. -/
theorem internBy_eq_intern_iff :
    (∀ inner, internBy inner table text = table.intern text) ↔
      ¬ (table.lookup text = none ∧ classify text = .setter) := by
  constructor
  · rintro h ⟨hnone, hscope⟩
    have hfirst := h fun before _ ↦ (.error (.notFound ⟨0⟩), before)
    have hsecond := h fun before _ ↦ (.error (.notFound ⟨1⟩), before)
    rw [internBy_error hnone hscope] at hfirst hsecond
    exact absurd (hfirst.trans hsecond.symm) (by simp)
  · intro h inner
    rw [← internBy_intern]
    exact internBy_congr fun hnone hscope ↦ absurd ⟨hnone, hscope⟩ h

/-! ### Records -/

/-- A new record is that of the text, or of the name before its sign. -/
theorem WellFormed.text_of_new_record (h : table.WellFormed floor)
    (hrecord : record ∈ (table.intern text).2.records) (hnew : record ∉ table.records) :
    record.text = text ∨ classify text = .setter ∧ record.text = text.dropLast := by
  have hinterns := h.interns text
  have hgrows := hinterns.grows h
  generalize hintern : table.intern text = outcome at hinterns hgrows hrecord
  obtain ⟨answer, after⟩ := outcome
  cases answer with
  | error fault =>
    have hmissed := (h.onlyMissed_of_intern_eq_error hintern).2
    rw [hmissed.sameNames.records_eq] at hrecord
    exact absurd hrecord hnew
  | ok id =>
    have hlookup := hgrows.wellFormed.lookup_of_mem hrecord
    have hmem : record.text ∈ after.textSet := by
      rw [hgrows.wellFormed.mem_textSet_iff, hlookup]
      rfl
    rw [hinterns.textSet_eq h, Finset.mem_union, h.mem_textSet_iff, Option.isSome_iff_exists] at hmem
    rcases hmem with ⟨old, hold⟩ | hrequired
    · have hid := hgrows.extends_table.lookup_eq _ _ hold
      rw [hlookup, Option.some.injEq] at hid
      subst hid
      exact absurd (mem_records_iff.mpr ((h.get?_iff _ _).mpr hold)) hnew
    · simpa [Batch.mem_required_iff, eq_comm] using hrequired

/-- There are at most two new records, since no two records have the same text. -/
theorem WellFormed.length_new_records_le (h : table.WellFormed floor) (text : Text) :
    ((table.intern text).2.records.filter (· ∉ table.records)).length ≤ 2 := by
  have hafter := ((h.interns text).grows h).wellFormed
  have hnodup : (((table.intern text).2.records.filter (· ∉ table.records)).map
      Record.text).Nodup :=
    hafter.nodup_texts.sublist (List.filter_sublist.map Record.text)
  have hsubset : ((table.intern text).2.records.filter (· ∉ table.records)).map Record.text ⊆
      [text, text.dropLast] := by
    intro name hname
    obtain ⟨record, hrecord, rfl⟩ := List.mem_map.mp hname
    obtain ⟨hmem, hnew⟩ := List.mem_filter.mp hrecord
    rcases h.text_of_new_record hmem (by simpa using hnew) with htext | ⟨-, htext⟩ <;> simp [htext]
  simpa using (hnodup.subperm hsubset).length_le

end Table

namespace Registry

variable {registry : Registry} {text : Text}

/-- Whatever an interning answers, it keeps the records, adds at most two to them, and takes at most
one sequence number. -/
structure InternsSparingly (registry : Registry) (text : Text) : Prop where
  exists_added : ∃ added : List Record,
    (registry.intern text).2.records.Perm (registry.records ++ added) ∧ added.length ≤ 2 ∧
      ∀ record ∈ added,
        record.text = text ∨ classify text = .setter ∧ text = record.text ++ ['=']
  le_last : registry.table.lastSequence ≤ (registry.intern text).2.table.lastSequence
  toNat_last_le : (registry.intern text).2.table.lastSequence.toNat ≤
    registry.table.lastSequence.toNat + 1

theorem Reachable.internsSparingly (h : registry.Reachable) (text : Text) :
    registry.InternsSparingly text := by
  have hgrows := (h.wellFormed.interns text).grows h.wellFormed
  constructor
  case exists_added =>
    refine ⟨_, hgrows.extends_table.records_perm, h.wellFormed.length_new_records_le text, ?_⟩
    intro record hrecord
    obtain ⟨hmem, hnew⟩ := List.mem_filter.mp hrecord
    rcases h.wellFormed.text_of_new_record hmem (by simpa using hnew) with htext | ⟨hscope, htext⟩
    · exact .inl htext
    · obtain ⟨base, rfl, -⟩ := classify_eq_setter_iff.mp hscope
      rw [htext, List.dropLast_concat]
      exact .inr ⟨hscope, rfl⟩
  case le_last => exact hgrows.extends_table.last_le
  case toNat_last_le => exact h.wellFormed.toNat_lastSequence_intern_le text

end Registry

/-- What stands before the sign of a setter is no setter. So an interning goes one level deep at
most, and this for a setter without a record only; it adds at most two records and takes at most one
sequence number. -/
theorem hasSetter_and_internsSparingly :
    (∀ text, classify text = .setter ↔ ∃ base, text = base ++ ['='] ∧ HasSetter base) ∧
      (∀ base, base ≠ [] → classify base = .localName ∨ classify base = .constant →
        classify (base ++ ['=']) = .setter) ∧
      (∀ table text inner,
        Table.internBy (Table.internBy inner) table text = table.intern text) ∧
      (∀ table text, (∀ inner, Table.internBy inner table text = table.intern text) ↔
        ¬ (table.lookup text = none ∧ classify text = .setter)) ∧
      ∀ registry, Registry.Reachable registry → ∀ text, registry.InternsSparingly text := by
  refine ⟨fun text ↦ classify_eq_setter_iff, fun base hne hscope ↦ ?_, fun table text inner ↦ ?_,
    fun table text ↦ Table.internBy_eq_intern_iff, fun registry hreachable text ↦ ?_⟩
  · exact classify_append_sign_eq_setter hne hscope
  · exact Table.internBy_internBy inner table text
  · exact hreachable.internsSparingly text

/-- The first setter of a registry with the default setup needs the inner interning, both records
and the number, and a setter may end in three signs. -/
theorem default_internsSparingly : ∃ start, Registry.create (.default ⟨8⟩) = .ok start ∧
    start.Reachable ∧
      (∃ base, ['a', '=', '=', '='] = base ++ ['='] ∧ HasSetter base) ∧
      classify (['A'] ++ ['=']) = .setter ∧
      start.InternsSparingly ['a', '='] ∧
      (start.intern ['a', '=']).2.size = start.size + 2 ∧
      (start.intern ['a', '=']).2.table.lastSequence = start.table.lastSequence + 1 ∧
      ¬ ∀ inner, Table.internBy inner start.table ['a', '='] = start.table.intern ['a', '='] := by
  obtain ⟨hsetter, hmark, -, hcall, hsparing⟩ := hasSetter_and_internsSparingly
  have hreachable := Registry.Reachable.create Registry.create_default
  refine ⟨_, Registry.create_default, hreachable, (hsetter _).mp (by decide),
    hmark ['A'] (by simp) (.inr (by decide)), hsparing _ hreachable _, by decide +kernel,
    by decide +kernel, fun hlevel ↦ ?_⟩
  exact (hcall _ _).mp hlevel ⟨by decide +kernel, by decide⟩

end Interning
