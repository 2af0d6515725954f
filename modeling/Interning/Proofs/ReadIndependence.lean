import Interning.Proofs.AgreeingTables

/-!
# Reads do not influence interning

Reading a registry may record a setter, so leaving reads out of a run changes the table. It does
not change what interning answers. Registries that agree up to derivable setters
(`Registry.Agrees`) give the same answers to every operation except those that inspect the maps
(`Operation.inspects`), and agree afterwards (`Registry.Agrees.perform`); and a read leaves a
registry behind that agrees with the one before (`Registry.agrees_perform_of_isRead`). The one read
to which this does not apply is a resolution of the empty name's setter, which may record the sign.

A run is a list of `Call`s, some of which are left out of a second run; `Registry.transcript` is
what the calls that stay are answered. `Registry.forall₂_transcript_kept` compares the transcripts
of both runs, call by call.
-/

set_option autoImplicit false
set_option relaxedAutoImplicit false

namespace Interning

/-! ### Kinds of operations -/

/-- The operations that are not asked to intern a text. -/
def Operation.isRead : Operation → Bool
  | .intern _ | .upcase _ | .downcase _ | .capitalize _ | .swapCase _ => false
  | _ => true

/-- The operations that answer from what the maps hold and resolve nothing. -/
def Operation.inspects : Operation → Bool
  | .lookup _ | .contains _ | .allSymbols | .records | .isEmpty | .stats | .describe => true
  | _ => false

/-- The operations that order two identifiers. -/
def Operation.comparisons (a b : SymbolId) : List Operation :=
  [.compare a b, .caseCompare a b]

namespace Registry

/-- An operation resolves an identifier on the way to its answer. -/
inductive Probes (registry : Registry) : Operation → SymbolId → Prop
  | resolution {operation : Operation} {id : SymbolId}
      (hmem : operation ∈ Operation.resolutions id) : Probes registry operation id
  | setterOf {id setter : SymbolId} (hscope : id.scope = .localName ∨ id.scope = .constant)
      (hcontains : registry.contains id = true) (hsetter : id.withScope .setter = some setter) :
      Probes registry (.setterOf id) setter
  | first {operation : Operation} {a b : SymbolId}
      (hmem : operation ∈ Operation.comparisons a b) : Probes registry operation a
  | second {operation : Operation} {a b : SymbolId} {text : Text}
      (hmem : operation ∈ Operation.comparisons a b)
      (hfirst : (registry.resolve a).1 = .ok text) : Probes registry operation b

/-! ### Registries that agree -/

/-- Two registries have the same setup, and their tables satisfy the invariant and agree up to
derivable setters. -/
structure Agrees (floor : UInt64) (registry other : Registry) : Prop where
  config_eq : other.config = registry.config
  wellFormed : registry.table.WellFormed floor
  wellFormed_other : other.table.WellFormed floor
  table : registry.table.Agrees other.table

/-- Two outcomes are the same answer, and leave registries behind that agree. -/
structure Matches {α : Type} (floor : UInt64) (outcome other : α × Registry) : Prop where
  answer_eq : other.1 = outcome.1
  agrees : outcome.2.Agrees floor other.2

variable {floor : UInt64} {registry other : Registry}

theorem Matches.exists_eq {α : Type} {outcome outcome' : α × Registry}
    (h : Matches floor outcome outcome') :
    ∃ answer after after', outcome = (answer, after) ∧ outcome' = (answer, after') ∧
      after.Agrees floor after' :=
  ⟨outcome.1, outcome.2, outcome'.2, rfl, Prod.ext h.answer_eq rfl, h.agrees⟩

theorem agrees_refl (h : registry.table.WellFormed floor) : registry.Agrees floor registry :=
  ⟨rfl, h, h, .refl registry.table⟩

theorem Agrees.intern (h : registry.Agrees floor other) (text : Text) :
    Matches floor (registry.intern text) (other.intern text) := by
  obtain ⟨hanswer, htable⟩ := h.table.intern h.wellFormed h.wellFormed_other text
  have hgrows := (h.wellFormed.interns text).grows h.wellFormed
  have hgrows' := (h.wellFormed_other.interns text).grows h.wellFormed_other
  exact ⟨hanswer, h.config_eq, hgrows.wellFormed, hgrows'.wellFormed, htable⟩

theorem Agrees.afterRecord (h : registry.Agrees floor other) (id : SymbolId) :
    (registry.afterRecord id).Agrees floor (other.afterRecord id) where
  config_eq := h.config_eq
  wellFormed := wellFormed_afterRecord h.wellFormed id
  wellFormed_other := wellFormed_afterRecord h.wellFormed_other id
  table := (h.table.record h.wellFormed h.wellFormed_other id).2

theorem Agrees.record_eq (h : registry.Agrees floor other) (id : SymbolId) :
    (other.table.record id).1 = (registry.table.record id).1 :=
  (h.table.record h.wellFormed h.wellFormed_other id).1

theorem Agrees.record (h : registry.Agrees floor other) (id : SymbolId) :
    Matches floor (registry.record id) (other.record id) :=
  ⟨h.record_eq id, h.afterRecord id⟩

theorem Agrees.resolve (h : registry.Agrees floor other) (id : SymbolId) :
    Matches floor (registry.resolve id) (other.resolve id) := by
  rw [resolve_eq, resolve_eq, h.record_eq]
  exact ⟨rfl, h.afterRecord id⟩

theorem Agrees.displayId (h : registry.Agrees floor other) (id : SymbolId) :
    Matches floor (registry.displayId id) (other.displayId id) := by
  rw [displayId_eq, displayId_eq, h.record_eq]
  exact ⟨rfl, h.afterRecord id⟩

theorem Agrees.isEmptySymbol (h : registry.Agrees floor other) (id : SymbolId) :
    Matches floor (registry.isEmptySymbol id) (other.isEmptySymbol id) := by
  rw [isEmptySymbol_eq, isEmptySymbol_eq, h.record_eq]
  exact ⟨rfl, h.afterRecord id⟩

theorem Agrees.text? (h : registry.Agrees floor other) (id : SymbolId) :
    Matches floor (registry.text? id) (other.text? id) := by
  rw [text?_eq, text?_eq, h.record_eq]
  exact ⟨rfl, h.afterRecord id⟩

theorem Agrees.mapText (h : registry.Agrees floor other) (image : Text → Text) (id : SymbolId) :
    Matches floor (mapText image registry id) (mapText image other id) := by
  rw [mapText_eq, mapText_eq, h.record_eq]
  cases (registry.table.record id).1 with
  | ok record => exact (h.afterRecord id).intern (image record.text)
  | error fault => exact ⟨rfl, h.afterRecord id⟩

theorem Agrees.compareBy (h : registry.Agrees floor other) (key : Text → Text)
    (a b : SymbolId) :
    Matches floor (compareBy key registry a b) (compareBy key other a b) := by
  obtain ⟨first, middle, middle', hfirst, hfirst', hagrees⟩ := (h.text? a).exists_eq
  unfold Registry.compareBy
  rw [hfirst, hfirst']
  cases first with
  | error fault => exact ⟨rfl, hagrees⟩
  | ok first =>
    cases first with
    | none => exact ⟨rfl, hagrees⟩
    | some first =>
      obtain ⟨second, after, after', hsecond, hsecond', hagrees⟩ := (hagrees.text? b).exists_eq
      simp only [hsecond, hsecond']
      cases second with
      | error fault => exact ⟨rfl, hagrees⟩
      | ok second => cases second <;> exact ⟨rfl, hagrees⟩

theorem Agrees.setterOf (h : registry.Agrees floor other) (id : SymbolId) :
    Matches floor (registry.setterOf id) (other.setterOf id) := by
  have hguard :
      ((id.scope = .localName ∨ id.scope = .constant) ∧ other.contains id = true) ↔
        ((id.scope = .localName ∨ id.scope = .constant) ∧ registry.contains id = true) := by
    refine and_congr_right fun hscope ↦ ?_
    have hsetter : id.scope ≠ .setter := by
      rcases hscope with hscope | hscope <;> simp [hscope]
    rw [contains, contains, h.table.contains_eq h.wellFormed h.wellFormed_other hsetter]
  unfold Registry.setterOf
  rw [if_congr hguard rfl rfl]
  split
  · cases id.withScope .setter with
    | none => exact ⟨rfl, h⟩
    | some setter =>
      obtain ⟨found, after, after', hfound, hfound', hagrees⟩ := (h.text? setter).exists_eq
      simp only [hfound, hfound']
      cases found <;> exact ⟨rfl, hagrees⟩
  · exact ⟨rfl, h⟩

theorem Matches.ofOutcome {α : Type} {outcome outcome' : Except Fault α × Registry}
    (h : Matches floor outcome outcome') (answer : α → Answer) :
    Matches floor (Answer.ofOutcome answer outcome) (Answer.ofOutcome answer outcome') := by
  obtain ⟨result, after, after', rfl, rfl, hagrees⟩ := h.exists_eq
  cases result <;> exact ⟨rfl, hagrees⟩

/-- Registries that agree answer alike every operation that inspects no map, and agree after every
operation. -/
theorem Agrees.perform (h : registry.Agrees floor other) (operation : Operation) :
    (operation.inspects = false →
        (other.perform operation).1 = (registry.perform operation).1) ∧
      (registry.perform operation).2.Agrees floor (other.perform operation).2 := by
  have hmatches : operation.inspects = false →
      Matches floor (registry.perform operation) (other.perform operation) := by
    intro hinspects
    cases operation with
    | intern text => exact (h.intern text).ofOutcome _
    | resolve id => exact (h.resolve id).ofOutcome _
    | record id => exact (h.record id).ofOutcome _
    | displayId id => exact (h.displayId id).ofOutcome _
    | isEmptySymbol id => exact (h.isEmptySymbol id).ofOutcome _
    | compare a b => exact (h.compareBy id a b).ofOutcome _
    | caseCompare a b => exact (h.compareBy _ a b).ofOutcome _
    | upcase id => exact (h.mapText _ id).ofOutcome _
    | downcase id => exact (h.mapText _ id).ofOutcome _
    | capitalize id => exact (h.mapText _ id).ofOutcome _
    | swapCase id => exact (h.mapText _ id).ofOutcome _
    | setterOf id => exact (h.setterOf id).ofOutcome _
    | config => exact ⟨congrArg Answer.config h.config_eq, h⟩
    | classify | scopeOf | display | withScope | operatorTokens => exact ⟨rfl, h⟩
    | lookup | contains | allSymbols | records | isEmpty | stats | describe => cases hinspects
  refine ⟨fun hinspects ↦ (hmatches hinspects).answer_eq, ?_⟩
  cases hinspects : operation.inspects with
  | false => exact (hmatches hinspects).agrees
  | true => cases operation <;> first | exact h | cases hinspects

/-! ### Reads -/

/-- A resolution leaves a registry behind that agrees with the one before, unless it asks for the
setter of the empty name. -/
theorem agrees_afterRecord (h : registry.table.WellFormed floor) {id : SymbolId}
    (hempty : ¬ registry.table.IsEmptySetter id) :
    registry.table.Agrees (registry.afterRecord id).table :=
  h.agrees_record hempty

theorem agrees_compareBy (h : registry.table.WellFormed floor) (key : Text → Text)
    {a b : SymbolId} (hfirst : ¬ registry.table.IsEmptySetter a)
    (hsecond : ∀ text, (registry.resolve a).1 = .ok text → ¬ registry.table.IsEmptySetter b) :
    registry.table.Agrees (compareBy key registry a b).2.table := by
  have hagrees := agrees_afterRecord h hfirst
  have hafter := wellFormed_afterRecord h a
  rw [resolve_eq] at hsecond
  unfold compareBy
  rw [text?_eq]
  cases hrecord : (registry.table.record a).1 with
  | ok record =>
    have hempty : ¬ (registry.afterRecord a).table.IsEmptySetter b := by
      rw [hagrees.isEmptySetter_iff]
      exact hsecond record.text (by rw [hrecord]; rfl)
    have hboth := hagrees.trans (agrees_afterRecord hafter hempty)
    simp only [text?_eq]
    split <;> next hanswer =>
      obtain ⟨-, rfl⟩ := Prod.mk.inj hanswer
      exact hboth
  | error fault => cases fault <;> exact hagrees

theorem agrees_setterOf (h : registry.table.WellFormed floor) {id : SymbolId}
    (hempty : ∀ setter, registry.Probes (.setterOf id) setter →
      ¬ registry.table.IsEmptySetter setter) :
    registry.table.Agrees (registry.setterOf id).2.table := by
  unfold setterOf
  split
  · next hguard =>
    split
    · exact .refl registry.table
    · next setter hsetter =>
      have hagrees := agrees_afterRecord h (hempty setter (.setterOf hguard.1 hguard.2 hsetter))
      rw [text?_eq]
      split <;> next hanswer =>
        obtain ⟨-, rfl⟩ := Prod.mk.inj hanswer
        exact hagrees
  · exact .refl registry.table

/-- A read leaves a registry behind that agrees with the one before, unless it resolves the setter
of the empty name. -/
theorem agrees_perform_of_isRead (h : registry.table.WellFormed floor) {operation : Operation}
    (hread : operation.isRead = true)
    (hempty : ∀ id, registry.Probes operation id → ¬ registry.table.IsEmptySetter id) :
    registry.table.Agrees (registry.perform operation).2.table := by
  have hrecord {id : SymbolId} (hmem : operation ∈ Operation.resolutions id) :
      registry.table.Agrees (registry.afterRecord id).table :=
    agrees_afterRecord h (hempty id (.resolution hmem))
  have hcompare {a b : SymbolId} (hmem : operation ∈ Operation.comparisons a b)
      (key : Text → Text) : registry.table.Agrees (compareBy key registry a b).2.table :=
    agrees_compareBy h key (hempty a (.first hmem)) fun _ hfirst ↦ hempty b (.second hmem hfirst)
  cases operation <;> simp only [perform, ofOutcome_snd]
  case resolve id =>
    rw [resolve_eq]
    exact hrecord (by simp [Operation.resolutions])
  case record id => exact hrecord (by simp [Operation.resolutions])
  case displayId id =>
    rw [displayId_eq]
    exact hrecord (by simp [Operation.resolutions])
  case isEmptySymbol id =>
    rw [isEmptySymbol_eq]
    exact hrecord (by simp [Operation.resolutions])
  case compare a b => exact hcompare (by simp [Operation.comparisons]) id
  case caseCompare a b => exact hcompare (by simp [Operation.comparisons]) _
  case setterOf id => exact agrees_setterOf h hempty
  case intern | upcase | downcase | capitalize | swapCase => cases hread
  all_goals exact .refl registry.table

/-! ### Runs with and without reads -/

/-- An operation of a run, and whether it stays when calls are left out. -/
structure Call where
  operation : Operation
  kept : Bool

/-- The calls that stay with their answers in the run of all calls. -/
def transcript (registry : Registry) : List Call → List (Operation × Answer)
  | [] => []
  | call :: rest =>
    let (answer, after) := registry.perform call.operation
    if call.kept then (call.operation, answer) :: after.transcript rest
    else after.transcript rest

/-- The calls that are left out of a run are reads, none of which resolves the setter of the empty
name. -/
def OmitsReads (registry : Registry) : List Call → Prop
  | [] => True
  | call :: rest =>
    (call.kept = false → call.operation.isRead = true ∧
        ∀ id, registry.Probes call.operation id → ¬ registry.table.IsEmptySetter id) ∧
      (registry.perform call.operation).2.OmitsReads rest

/-- The same operation stands in two transcripts, with the same answer unless it inspects a
map. -/
structure SameAnswer (entry other : Operation × Answer) : Prop where
  operation_eq : other.1 = entry.1
  answer_eq : entry.1.inspects = false → other.2 = entry.2

/-- From registries that agree, the calls that stay are answered alike with and without the
others. -/
theorem Agrees.forall₂_transcript (h : registry.Agrees floor other) {calls : List Call}
    (hreads : registry.OmitsReads calls) :
    List.Forall₂ SameAnswer (registry.transcript calls)
      (other.transcript (calls.filter Call.kept)) := by
  induction calls generalizing registry other with
  | nil => exact .nil
  | cons call rest ih =>
    obtain ⟨hcall, hrest⟩ := hreads
    obtain ⟨hanswer, hagrees⟩ := h.perform call.operation
    cases hkept : call.kept with
    | true =>
      simp only [transcript, List.filter_cons, hkept, if_true]
      exact .cons ⟨rfl, hanswer⟩ (ih hagrees hrest)
    | false =>
      obtain ⟨hread, hempty⟩ := hcall hkept
      have hskip : (registry.perform call.operation).2.Agrees floor other := by
        refine ⟨?_, (grows_perform h.wellFormed _).wellFormed, h.wellFormed_other, ?_⟩
        · rw [h.config_eq, (steps_perform registry call.operation).config_eq]
        · exact (agrees_perform_of_isRead h.wellFormed hread hempty).symm.trans h.table
      simp only [transcript, List.filter_cons, hkept]
      exact ih hskip hrest

/-- Leaving reads out of a run on a new registry changes no answer of the calls that stay, unless
they inspect a map or a read was left out that resolves the setter of the empty name. -/
theorem forall₂_transcript_kept {config : RegistryConfig} {start : Registry}
    (hstart : Registry.create config = .ok start) {calls : List Call}
    (hreads : start.OmitsReads calls) :
    List.Forall₂ SameAnswer (start.transcript calls)
      (start.transcript (calls.filter Call.kept)) :=
  (agrees_refl (wellFormed_of_create hstart).2).forall₂_transcript hreads

/-- The resolution that is left out records the setter, which the next call would record. -/
theorem default_transcript_kept : ∃ start, Registry.create (.default ⟨8⟩) = .ok start ∧
    start.OmitsReads [⟨.intern ['a'], true⟩, ⟨.resolve ⟨8012⟩, false⟩, ⟨.intern ['a', '='], true⟩,
        ⟨.upcase ⟨8012⟩, true⟩] ∧
      List.Forall₂ SameAnswer
        (start.transcript [⟨.intern ['a'], true⟩, ⟨.resolve ⟨8012⟩, false⟩,
          ⟨.intern ['a', '='], true⟩, ⟨.upcase ⟨8012⟩, true⟩])
        (start.transcript [⟨.intern ['a'], true⟩, ⟨.intern ['a', '='], true⟩,
          ⟨.upcase ⟨8012⟩, true⟩]) := by
  have hreads : (bootstrap (.default ⟨8⟩)).OmitsReads [⟨.intern ['a'], true⟩,
      ⟨.resolve ⟨8012⟩, false⟩, ⟨.intern ['a', '='], true⟩, ⟨.upcase ⟨8012⟩, true⟩] := by
    refine ⟨by simp, fun _ ↦ ⟨rfl, fun id _ ↦ ?_⟩, by simp, by simp, trivial⟩
    rintro ⟨reader, hlookup, -⟩
    have hnone : ((bootstrap (.default ⟨8⟩)).perform (.intern ['a'])).2.table.lookup [] = none := by
      decide +kernel
    exact absurd (hnone.symm.trans hlookup) (by simp)
  exact ⟨_, create_default, hreads, forall₂_transcript_kept create_default hreads⟩

end Registry

end Interning
