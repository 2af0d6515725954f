import Interning.Proofs.DerivableSetters
import Interning.Proofs.FailedResolution

/-!
# Tables that agree up to derivable setters

A resolution may record the setter of a local name or a constant. Two tables of which one has been
asked for more setters than the other therefore differ, but only in records that either of them
would make when asked: `Table.Agrees` says that they look up alike every text that is no such
setter and have given out the same sequence numbers.

Tables that agree cannot be told apart by interning or resolving. `Table.Agrees.intern` and
`Table.Agrees.record` prove that the answers are the same and that the tables left behind agree
again. A setter with a recorded name has one identifier in both, whether it is known or not
(`Table.WellFormed.intern_derivable`), and the names of identifiers are the same
(`Table.Agrees.names`). The empty name's setter is again the exception: it is no derivable setter,
and asking for it may record the sign (`Table.WellFormed.record_cases`).
-/

set_option autoImplicit false
set_option relaxedAutoImplicit false

namespace Interning

/-- A text is a setter that a resolution can record: that of a local name or a constant. -/
def IsDerivable (text : Text) : Prop :=
  ∃ base, text = base ++ ['='] ∧ base ≠ [] ∧
    (classify base = .localName ∨ classify base = .constant)

theorem IsPlain.not_isDerivable {text : Text} (hplain : IsPlain text) : ¬ IsDerivable text := by
  rintro ⟨base, rfl, hne, hscope⟩
  exact hplain.2 (classify_append_sign_eq_setter hne hscope)

namespace Table

/-- Two tables have given out the same sequence numbers and hold the same texts under the same
identifiers, derivable setters apart. -/
structure Agrees (table other : Table) : Prop where
  lookup_eq : ∀ text, ¬ IsDerivable text → other.lookup text = table.lookup text
  lastSequence_eq : other.lastSequence = table.lastSequence

variable {floor : UInt64} {table other after : Table} {text base : Text} {id : SymbolId}
  {sequence : UInt64}

/-! ### Agreement -/

theorem SameNames.agrees (h : table.SameNames other) : table.Agrees other :=
  ⟨fun text _ ↦ h.lookup_eq text, h.lastSequence_eq⟩

theorem Agrees.refl (table : Table) : table.Agrees table :=
  (SameNames.refl table).agrees

theorem Agrees.symm (h : table.Agrees other) : other.Agrees table :=
  ⟨fun text htext ↦ (h.lookup_eq text htext).symm, h.lastSequence_eq.symm⟩

theorem Agrees.trans {last : Table} (h : table.Agrees other) (hlast : other.Agrees last) :
    table.Agrees last :=
  ⟨fun text htext ↦ (hlast.lookup_eq text htext).trans (h.lookup_eq text htext),
    hlast.lastSequence_eq.trans h.lastSequence_eq⟩

/-- Tables that agree with two that agree do so among each other. -/
theorem Agrees.congr {table' other' : Table} (h : table.Agrees other)
    (htable : table.Agrees table') (hother : other.Agrees other') : table'.Agrees other' :=
  htable.symm.trans (h.trans hother)

theorem Agrees.lookup_of_isPlain (h : table.Agrees other) (hplain : IsPlain text) :
    other.lookup text = table.lookup text :=
  h.lookup_eq text hplain.not_isDerivable

theorem Agrees.numbers (h : table.Agrees other) (hnumber : table.Numbers floor text sequence) :
    other.Numbers floor text sequence where
  floor_lt := hnumber.floor_lt
  le_last := h.lastSequence_eq ▸ hnumber.le_last
  plain := hnumber.plain
  lookup_eq := (h.lookup_of_isPlain hnumber.plain).trans hnumber.lookup_eq

theorem Agrees.recordPlain (h : table.Agrees other) (text : Text) :
    (table.recordPlain text).Agrees (other.recordPlain text) where
  lookup_eq name hname := by
    rw [lookup_recordPlain, lookup_recordPlain, h.lookup_eq name hname, h.lastSequence_eq]
  lastSequence_eq := by
    rw [lastSequence_recordPlain, lastSequence_recordPlain, h.lastSequence_eq]

theorem Agrees.recordSetter (h : table.Agrees other) (base : Text) (sequence : UInt64) :
    (table.recordSetter base sequence).Agrees (other.recordSetter base sequence) where
  lookup_eq name hname := by
    rw [lookup_recordSetter, lookup_recordSetter, h.lookup_eq name hname]
  lastSequence_eq := h.lastSequence_eq

/-- To record a derivable setter makes no difference. -/
theorem agrees_recordSetter (table : Table) (hderivable : IsDerivable (base ++ ['=']))
    (sequence : UInt64) : table.Agrees (table.recordSetter base sequence) where
  lookup_eq name hname := by
    rw [lookup_recordSetter, if_neg]
    rintro rfl
    exact hname hderivable
  lastSequence_eq := rfl

/-! ### Interning -/

/-- The setter of a numbered name is interned under the number, recorded or not, and if it is
derivable it makes no difference whether it was recorded. -/
theorem WellFormed.intern_derivable (h : table.WellFormed floor)
    (hnumber : table.Numbers floor base sequence) (hderivable : IsDerivable (base ++ ['='])) :
    (table.intern (base ++ ['='])).1 = .ok (.dynamic sequence .setter) ∧
      table.Agrees (table.intern (base ++ ['='])).2 := by
  have hscope : classify (base ++ ['=']) = .setter := by
    obtain ⟨name, htext, hne, hname⟩ := hderivable
    obtain rfl := List.append_cancel_right htext
    exact classify_append_sign_eq_setter hne hname
  cases hlookup : table.lookup (base ++ ['=']) with
  | some id =>
    obtain rfl := h.eq_of_lookup_setter hnumber hscope hlookup
    rw [intern_of_lookup_eq_some hlookup]
    exact ⟨rfl, (sameNames_countHit table).agrees⟩
  | none =>
    have hsame := (sameNames_countMiss table).trans (sameNames_countHit table.countMiss)
    rw [intern_setter h hlookup hscope hnumber]
    exact ⟨rfl, hsame.agrees.trans (agrees_recordSetter _ hderivable sequence)⟩

/-- Unless a text is a derivable setter of a recorded name, tables that agree look it up alike. -/
theorem Agrees.lookup_eq_of_not_numbered (h : table.Agrees other)
    (htable : table.WellFormed floor) (hother : other.WellFormed floor)
    (hfree : ¬ ∃ base sequence, text = base ++ ['='] ∧ IsDerivable (base ++ ['=']) ∧
      table.Numbers floor base sequence) : other.lookup text = table.lookup text := by
  by_cases hderivable : IsDerivable text
  · have hnone {one : Table} (hone : one.WellFormed floor) (hagrees : one.Agrees table) :
        one.lookup text = none := by
      by_contra hlookup
      obtain ⟨id, hid⟩ := Option.ne_none_iff_exists'.mp hlookup
      obtain ⟨base, rfl, hne, hbase⟩ := hderivable
      obtain ⟨sequence, hnumber, -⟩ :=
        hone.numbers_of_lookup_setter (classify_append_sign_eq_setter hne hbase) hid
      exact hfree ⟨base, sequence, rfl, ⟨base, rfl, hne, hbase⟩, hagrees.numbers hnumber⟩
    rw [hnone hother h.symm, hnone htable (.refl table)]
  · exact h.lookup_eq text hderivable

/-- Tables that agree intern alike, and agree afterwards. -/
theorem Agrees.intern (h : table.Agrees other) (htable : table.WellFormed floor)
    (hother : other.WellFormed floor) (text : Text) :
    (other.intern text).1 = (table.intern text).1 ∧
      (table.intern text).2.Agrees (other.intern text).2 := by
  by_cases hderivable : ∃ base sequence, text = base ++ ['='] ∧ IsDerivable (base ++ ['=']) ∧
      table.Numbers floor base sequence
  · obtain ⟨base, sequence, rfl, hderivable, hnumber⟩ := hderivable
    obtain ⟨hanswer, hafter⟩ := htable.intern_derivable hnumber hderivable
    obtain ⟨hanswer', hafter'⟩ := hother.intern_derivable (h.numbers hnumber) hderivable
    exact ⟨hanswer'.trans hanswer.symm, h.congr hafter hafter'⟩
  · have hlookup := h.lookup_eq_of_not_numbered htable hother hderivable
    have hlast := h.lastSequence_eq
    have hmiss (table : Table) := (sameNames_countMiss table).agrees
    have hhit (table : Table) := (sameNames_countHit table).agrees
    have hinterns := htable.interns text
    generalize table.intern text = outcome at hinterns ⊢
    cases hinterns with
    | known hknown =>
      rw [intern_of_lookup_eq_some (hlookup.trans hknown)]
      exact ⟨rfl, h.congr (hhit _) (hhit _)⟩
    | plain hnone hplain hlt =>
      rw [intern_plain (hlookup.trans hnone) hplain (by rwa [hlast]), hlast]
      exact ⟨rfl, (h.congr (hmiss _) (hmiss _)).recordPlain _⟩
    | setter hnone hscope hnumber =>
      rw [intern_setter hother (hlookup.trans hnone) hscope (h.numbers hnumber)]
      have hcounted := h.congr (hmiss _) (hmiss _)
      exact ⟨rfl, (hcounted.congr (hhit _) (hhit _)).recordSetter _ _⟩
    | setterAndBase hnone hscope hbase hlt =>
      have hbase' :=
        (h.lookup_of_isPlain (isPlain_of_classify_eq_setter hscope)).trans hbase
      rw [intern_setter_of_lookup_eq_none hother (hlookup.trans hnone) hscope hbase'
        (by rwa [hlast]), hlast]
      have hcounted := h.congr (hmiss _) (hmiss _)
      exact ⟨rfl, ((hcounted.congr (hmiss _) (hmiss _)).recordPlain _).recordSetter _ _⟩
    | plainExhausted hnone hplain hfull =>
      rw [intern_plain_exhausted (hlookup.trans hnone) hplain (by rwa [hlast]), hlast]
      exact ⟨rfl, h.congr (hmiss _) (hmiss _)⟩
    | setterExhausted hnone hscope hbase hfull =>
      have hbase' :=
        (h.lookup_of_isPlain (isPlain_of_classify_eq_setter hscope)).trans hbase
      rw [intern_setter_exhausted (hlookup.trans hnone) hscope hbase' (by rwa [hlast]), hlast]
      have hcounted := h.congr (hmiss _) (hmiss _)
      exact ⟨rfl, hcounted.congr (hmiss _) (hmiss _)⟩

/-! ### Resolving -/

theorem Agrees.names (h : table.Agrees other) (htable : table.WellFormed floor)
    (hnames : table.Names floor id text) : other.Names floor id text := by
  cases hnames with
  | derivable hid hnumber hscope hne => exact .derivable hid (h.numbers hnumber) hscope hne
  | recorded hlookup =>
    by_cases hderivable : IsDerivable text
    · obtain ⟨base, rfl, hne, hbase⟩ := hderivable
      obtain ⟨sequence, hnumber, hid⟩ :=
        htable.numbers_of_lookup_setter (classify_append_sign_eq_setter hne hbase) hlookup
      exact .derivable hid (h.numbers hnumber) hbase hne
    · exact .recorded ((h.lookup_eq text hderivable).trans hlookup)

theorem Agrees.isEmptySetter_iff (h : table.Agrees other) :
    other.IsEmptySetter id ↔ table.IsEmptySetter id := by
  rw [IsEmptySetter, IsEmptySetter, h.lookup_of_isPlain isPlain_empty]

/-- The identifiers of names, setters apart, have records in both tables or in neither. -/
theorem Agrees.contains_eq (h : table.Agrees other) (htable : table.WellFormed floor)
    (hother : other.WellFormed floor) (hscope : id.scope ≠ .setter) :
    other.contains id = table.contains id := by
  have hkeeps {one two : Table} (hone : one.WellFormed floor) (htwo : two.WellFormed floor)
      (hagrees : one.Agrees two) (hcontains : (one.get? id).isSome = true) :
      (two.get? id).isSome = true := by
    obtain ⟨record, hget⟩ := Option.isSome_iff_exists.mp hcontains
    have hlookup := hone.lookup_of_get? hget
    have hderivable : ¬ IsDerivable record.text := by
      rintro ⟨base, htext, hne, hbase⟩
      rw [hone.scope_eq hlookup, htext] at hscope
      exact hscope (classify_append_sign_eq_setter hne hbase)
    rw [(htwo.get?_iff _ _).mpr ((hagrees.lookup_eq _ hderivable).trans hlookup)]
    rfl
  rw [contains_eq_isSome_get?, contains_eq_isSome_get?, Bool.eq_iff_iff]
  exact ⟨hkeeps hother htable h.symm, hkeeps htable hother h⟩

/-- A resolution finds the name of the identifier and makes no difference, or finds no name and
does nothing, or asks for the setter of the empty name and interns the sign. -/
inductive RecordCase (floor : UInt64) (table : Table) (id : SymbolId) : Prop
  | named {text : Text} (hnames : table.Names floor id text)
      (hafter : table.Agrees (table.record id).2)
  | unnamed (hnames : ∀ text, ¬ table.Names floor id text) (hempty : ¬ table.IsEmptySetter id)
      (hrecord : table.record id = (.error (.notFound id), table))
  | empty (hnames : ∀ text, ¬ table.Names floor id text) (hempty : table.IsEmptySetter id)
      (hanswer : (table.record id).1 =
        match (table.intern ['=']).1 with
        | .ok _ => .error (.notFound id)
        | .error fault => .error fault)
      (hafter : (table.record id).2 = (table.intern ['=']).2)

theorem WellFormed.record_cases (h : table.WellFormed floor) (id : SymbolId) :
    table.RecordCase floor id := by
  have hresolves := h.resolves id
  have hunnamed {fault : Fault} (hfails : (table.record id).1 = .error fault) (text : Text) :
      ¬ table.Names floor id text := fun hnames ↦ by
    rw [h.record_eq_ok_iff.mpr hnames] at hfails
    exact absurd hfails (by simp)
  generalize houtcome : table.record id = outcome at hresolves
  rw [houtcome] at hunnamed
  cases hresolves with
  | known hget =>
    refine .named (.recorded (h.lookup_of_get? hget)) ?_
    rw [houtcome]
    exact .refl table
  | @derived base sequence _ hid hnumber hscope hne _ =>
    have hsame := (sameNames_countMiss table).trans (sameNames_countHit table.countMiss)
    have hsetter := agrees_recordSetter table.countMiss.countHit ⟨base, rfl, hne, hscope⟩ sequence
    refine .named (.derivable hid hnumber hscope hne) ?_
    rw [houtcome]
    exact (hsame.agrees.trans hsetter).trans (sameNames_countDerived _).agrees
  | unknown hget hreader =>
    refine .unnamed (hunnamed rfl) (fun hempty ↦ ?_) houtcome
    obtain ⟨sequence, hid, hnumber⟩ := h.isEmptySetter_iff.mp hempty
    exact hreader [] sequence hid hnumber (.inl rfl)
  | emptyKnown hget hid hnumber hsign =>
    have hintern := intern_of_lookup_eq_some hsign
    exact .empty (hunnamed rfl) (h.isEmptySetter_iff.mpr ⟨_, hid, hnumber⟩)
      (by rw [houtcome, hintern]) (by rw [houtcome, hintern])
  | emptyNew hget hid hnumber hnone hlast =>
    have hintern := intern_plain hnone isPlain_sign hlast
    exact .empty (hunnamed rfl) (h.isEmptySetter_iff.mpr ⟨_, hid, hnumber⟩)
      (by rw [houtcome, hintern]) (by rw [houtcome, hintern])
  | emptyExhausted hget hid hnumber hnone hlast =>
    have hintern := intern_plain_exhausted hnone isPlain_sign hlast
    exact .empty (hunnamed rfl) (h.isEmptySetter_iff.mpr ⟨_, hid, hnumber⟩)
      (by rw [houtcome, hintern]) (by rw [houtcome, hintern])

/-- Tables that agree resolve alike, and agree afterwards. -/
theorem Agrees.record (h : table.Agrees other) (htable : table.WellFormed floor)
    (hother : other.WellFormed floor) (id : SymbolId) :
    (other.record id).1 = (table.record id).1 ∧
      (table.record id).2.Agrees (other.record id).2 := by
  cases htable.record_cases id with
  | named hnames hafter =>
    have hnames' := h.names htable hnames
    cases hother.record_cases id with
    | named _ hafter' =>
      rw [htable.record_eq_ok_iff.mpr hnames, hother.record_eq_ok_iff.mpr hnames']
      exact ⟨rfl, h.congr hafter hafter'⟩
    | unnamed hunnamed => exact absurd hnames' (hunnamed _)
    | empty hunnamed => exact absurd hnames' (hunnamed _)
  | unnamed hunnamed hempty hrecord =>
    cases hother.record_cases id with
    | named hnames => exact absurd (h.symm.names hother hnames) (hunnamed _)
    | unnamed _ _ hrecord' =>
      rw [hrecord, hrecord']
      exact ⟨rfl, h⟩
    | empty _ hempty' => exact absurd (h.isEmptySetter_iff.mp hempty') hempty
  | empty hunnamed hempty hanswer hafter =>
    cases hother.record_cases id with
    | named hnames => exact absurd (h.symm.names hother hnames) (hunnamed _)
    | unnamed _ hempty' => exact absurd (h.isEmptySetter_iff.mpr hempty) hempty'
    | empty _ _ hanswer' hafter' =>
      obtain ⟨hsign, hagrees⟩ := h.intern htable hother ['=']
      rw [hanswer, hanswer', hafter, hafter', hsign]
      exact ⟨rfl, hagrees⟩

/-- A resolution makes no difference unless it asks for the setter of the empty name. -/
theorem WellFormed.agrees_record (h : table.WellFormed floor) (hempty : ¬ table.IsEmptySetter id) :
    table.Agrees (table.record id).2 := by
  cases h.record_cases id with
  | named _ hafter => exact hafter
  | unnamed _ _ hrecord =>
    rw [hrecord]
    exact .refl table
  | empty _ hempty' => exact absurd hempty' hempty

end Table

end Interning
