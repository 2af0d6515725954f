import Interning.Proofs.CounterLaws

/-!
# What a run creates

A record is created while a text is interned for its own sake, or inside the resolution of an
identifier, which interns the setter it derives. The table does not tell the two apart afterwards.
So a run is read here as the `Table.Request`s that its operations make of the table, one interning
or resolution each, and `Registry.history` lists the records that it creates with the request in
which each of them was created.

An operation changes the table by its requests in turn and by nothing else, and if it does not
answer that the sequence is exhausted, no request of it has found it so (`Registry.serves_perform`).
What requests create is what the table holds more (`Table.records_perm_creations`).
-/

set_option autoImplicit false
set_option relaxedAutoImplicit false

namespace Interning

/-- Whether an outcome is that the sequence numbers are exhausted. -/
def isExhausted {α : Type} : Except Fault α → Bool
  | .error (.exhausted _) => true
  | _ => false

/-- Whether an answer is that the sequence numbers are exhausted. -/
def Answer.isExhausted : Answer → Bool
  | .fault (.exhausted _) => true
  | _ => false

/-- What an operation asks of the table. -/
inductive Table.Request where
  | intern (text : Text)
  | resolve (id : SymbolId)

/-- A record, and the request in which it was created. -/
structure Creation where
  request : Table.Request
  record : Record

/-- Whether a record is a setter that a resolution has derived. -/
def Creation.isDerived : Creation → Bool
  | ⟨.intern _, _⟩ => false
  | ⟨.resolve _, record⟩ => record.id.scope == .setter

namespace Table

/-- The table that a request leaves behind. -/
def serve (table : Table) : Request → Table
  | .intern text => (table.intern text).2
  | .resolve id => (table.record id).2

/-- Whether a request needs a sequence number and finds none. -/
def exhausts (table : Table) : Request → Bool
  | .intern text => isExhausted (table.intern text).1
  | .resolve id => isExhausted (table.record id).1

/-- The table that requests in turn leave behind. -/
def serveAll (table : Table) (requests : List Request) : Table :=
  requests.foldl serve table

/-- None of the requests in turn finds the sequence numbers exhausted. -/
def Completes (table : Table) : List Request → Prop
  | [] => True
  | request :: rest => table.exhausts request = false ∧ (table.serve request).Completes rest

/-- What a request creates: the records that are there afterwards and were not before. -/
def creations (table : Table) (request : Request) : List Creation :=
  ((table.serve request).records.filter (· ∉ table.records)).map (Creation.mk request)

/-- What requests in turn create. -/
def history (table : Table) : List Request → List Creation
  | [] => []
  | request :: rest => table.creations request ++ (table.serve request).history rest

variable {floor : UInt64} {table after : Table}

theorem steps_serve (table : Table) (request : Request) : table.Steps (table.serve request) := by
  cases request with
  | intern text => exact steps_intern table text
  | resolve id => exact steps_record table id

theorem WellFormed.grows_serve (h : table.WellFormed floor) (request : Request) :
    table.Grows floor (table.serve request) :=
  (steps_serve table request).grows h

theorem serveAll_append (table : Table) (first second : List Request) :
    table.serveAll (first ++ second) = (table.serveAll first).serveAll second :=
  List.foldl_append

theorem completes_append {first second : List Request} :
    table.Completes (first ++ second) ↔
      table.Completes first ∧ (table.serveAll first).Completes second := by
  induction first generalizing table with
  | nil => exact (and_iff_right trivial).symm
  | cons request rest ih => exact (and_congr_right' ih).trans and_assoc.symm

/-! ### Records -/

/-- A table that has grown holds what it held, and what is new. -/
theorem Extends.records_perm (h : table.Extends after) :
    after.records.Perm (table.records ++ after.records.filter (· ∉ table.records)) := by
  have hdisjoint : table.records.Disjoint (after.records.filter (· ∉ table.records)) := by
    intro record hold hnew
    exact absurd hold (by simpa using (List.mem_filter.mp hnew).2)
  refine (List.perm_ext_iff_of_nodup (nodup_records after)
    ((nodup_records table).append ((nodup_records after).filter _) hdisjoint)).mpr fun record ↦ ?_
  have hsubset : record ∈ table.records → record ∈ after.records := fun hold ↦
    mem_records_iff.mpr (h.get?_eq _ _ (mem_records_iff.mp hold))
  simp only [List.mem_append, List.mem_filter, decide_eq_true_eq]
  tauto

/-- What a request creates is what the table holds more. -/
theorem records_perm_creations (h : table.WellFormed floor) (request : Request) :
    (table.serve request).records.Perm
      (table.records ++ (table.creations request).map Creation.record) := by
  have hrecords : (table.creations request).map Creation.record =
      (table.serve request).records.filter (· ∉ table.records) := by
    rw [creations, List.map_map]
    exact List.map_id _
  rw [hrecords]
  exact (h.grows_serve request).extends_table.records_perm

end Table

namespace Registry

/-! ### Requests of an operation -/

/-- Two identifiers are ordered by resolving the first, and then the second if the first has a
name. -/
def orderRequests (registry : Registry) (a b : SymbolId) : List Table.Request :=
  match (registry.table.record a).1 with
  | .ok _ => [.resolve a, .resolve b]
  | .error _ => [.resolve a]

/-- The text of an identifier is resolved and its image is interned. -/
def mapRequests (image : Text → Text) (registry : Registry) (id : SymbolId) : List Table.Request :=
  match (registry.table.record id).1 with
  | .ok record => [.resolve id, .intern (image record.text)]
  | .error _ => [.resolve id]

/-- The setter of a recorded local name or constant is resolved. -/
def setterRequests (registry : Registry) (id : SymbolId) : List Table.Request :=
  if (id.scope = .localName ∨ id.scope = .constant) ∧ registry.contains id = true then
    (id.withScope .setter).toList.map .resolve
  else []

/-- What an operation asks of the table, in order. -/
def requests (registry : Registry) : Operation → List Table.Request
  | .intern text => [.intern text]
  | .resolve id | .record id | .displayId id | .isEmptySymbol id => [.resolve id]
  | .compare a b | .caseCompare a b => registry.orderRequests a b
  | .upcase id => registry.mapRequests Text.upcase id
  | .downcase id => registry.mapRequests Text.downcase id
  | .capitalize id => registry.mapRequests Text.capitalize id
  | .swapCase id => registry.mapRequests Text.swapCase id
  | .setterOf id => registry.setterRequests id
  | _ => []

/-- A registry is what requests in turn leave behind, and none of them has found the sequence
numbers exhausted unless the outcome says so. -/
structure Serves (registry : Registry) (requests : List Table.Request) (exhausted : Bool)
    (after : Registry) : Prop where
  table_eq : after.table = registry.table.serveAll requests
  completes : exhausted = false → registry.table.Completes requests

section Serves

variable {registry middle after : Registry} {first second : List Table.Request}
  {exhausted exhausted' : Bool}

theorem serves_nil (registry : Registry) (exhausted : Bool) :
    registry.Serves [] exhausted registry :=
  ⟨rfl, fun _ ↦ trivial⟩

/-- Another outcome of the same requests says no less. -/
theorem Serves.imp (h : registry.Serves first exhausted after)
    (himp : exhausted' = false → exhausted = false) : registry.Serves first exhausted' after :=
  ⟨h.table_eq, fun hexhausted ↦ h.completes (himp hexhausted)⟩

theorem Serves.trans (h : registry.Serves first false middle)
    (hsecond : middle.Serves second exhausted after) :
    registry.Serves (first ++ second) exhausted after where
  table_eq := by rw [hsecond.table_eq, h.table_eq, Table.serveAll_append]
  completes hexhausted := by
    rw [Table.completes_append, ← h.table_eq]
    exact ⟨h.completes rfl, hsecond.completes hexhausted⟩

end Serves

theorem serves_intern (registry : Registry) (text : Text) :
    registry.Serves [.intern text] (isExhausted (registry.intern text).1)
      (registry.intern text).2 :=
  ⟨rfl, fun hexhausted ↦ ⟨hexhausted, trivial⟩⟩

theorem serves_record (registry : Registry) (id : SymbolId) :
    registry.Serves [.resolve id] (isExhausted (registry.table.record id).1)
      (registry.afterRecord id) :=
  ⟨rfl, fun hexhausted ↦ ⟨hexhausted, trivial⟩⟩

theorem isExhausted_map {α β : Type} (image : α → β) (outcome : Except Fault α) :
    isExhausted (outcome.map image) = isExhausted outcome := by
  cases outcome with
  | ok value => rfl
  | error fault => cases fault <;> rfl

theorem serves_text? (registry : Registry) (id : SymbolId) :
    registry.Serves [.resolve id] (isExhausted (registry.text? id).1) (registry.text? id).2 := by
  have hrecord := serves_record registry id
  rw [text?_eq]
  cases hanswer : (registry.table.record id).1 with
  | ok record => exact hrecord.imp fun _ ↦ by rw [hanswer]; rfl
  | error fault => cases fault <;> exact hrecord.imp fun hfalse ↦ by rw [hanswer, ← hfalse]; rfl

theorem serves_mapText (image : Text → Text) (registry : Registry) (id : SymbolId) :
    registry.Serves (registry.mapRequests image id) (isExhausted (mapText image registry id).1)
      (mapText image registry id).2 := by
  have hrecord := serves_record registry id
  rw [mapText_eq, mapRequests]
  cases hanswer : (registry.table.record id).1 with
  | ok record =>
    rw [hanswer] at hrecord
    exact hrecord.trans (serves_intern (registry.afterRecord id) (image record.text))
  | error fault =>
    rw [hanswer] at hrecord
    cases fault <;> exact hrecord

theorem serves_compareBy (key : Text → Text) (registry : Registry) (a b : SymbolId) :
    registry.Serves (registry.orderRequests a b) (isExhausted (compareBy key registry a b).1)
      (compareBy key registry a b).2 := by
  have hfirst := serves_record registry a
  unfold compareBy orderRequests
  rw [text?_eq]
  cases hanswer : (registry.table.record a).1 with
  | error fault =>
    rw [hanswer] at hfirst
    cases fault <;> exact hfirst
  | ok record =>
    rw [hanswer] at hfirst
    refine hfirst.trans ?_
    have hsecond := serves_text? (registry.afterRecord a) b
    simp only
    generalize (registry.afterRecord a).text? b = outcome at hsecond ⊢
    obtain ⟨second, after⟩ := outcome
    cases second with
    | error fault => cases fault <;> exact hsecond
    | ok second => cases second <;> exact hsecond

theorem serves_setterOf (registry : Registry) (id : SymbolId) :
    registry.Serves (registry.setterRequests id) (isExhausted (registry.setterOf id).1)
      (registry.setterOf id).2 := by
  unfold setterOf setterRequests
  split
  · cases id.withScope .setter with
    | none => exact serves_nil registry _
    | some setter =>
      have htext := serves_text? registry setter
      simp only [Option.toList_some, List.map_cons, List.map_nil]
      generalize registry.text? setter = outcome at htext ⊢
      obtain ⟨found, after⟩ := outcome
      cases found with
      | error fault => cases fault <;> exact htext
      | ok found => exact htext
  · exact serves_nil registry _

/-- An operation changes the table by its requests in turn, none of which has found the sequence
numbers exhausted unless the answer says so. -/
theorem serves_perform (registry : Registry) (operation : Operation) :
    registry.Serves (registry.requests operation) (registry.perform operation).1.isExhausted
      (registry.perform operation).2 := by
  have hanswer {α : Type} {requests : List Table.Request} {outcome : Except Fault α × Registry}
      (answer : α → Answer) (h : registry.Serves requests (isExhausted outcome.1) outcome.2) :
      registry.Serves requests (Answer.ofOutcome answer outcome).1.isExhausted
        (Answer.ofOutcome answer outcome).2 := by
    obtain ⟨result, after⟩ := outcome
    cases result with
    | ok value => exact h.imp fun _ ↦ rfl
    | error fault => cases fault <;> exact h
  have himage {α : Type} (image : Record → α) (answer : α → Answer) (id : SymbolId) :
      registry.Serves [.resolve id]
        (Answer.ofOutcome answer ((registry.table.record id).1.map image,
          registry.afterRecord id)).1.isExhausted
        (Answer.ofOutcome answer ((registry.table.record id).1.map image,
          registry.afterRecord id)).2 :=
    hanswer answer ((serves_record registry id).imp fun hexhausted ↦
      (isExhausted_map image _).symm.trans hexhausted)
  cases operation with
  | intern text => exact hanswer _ (serves_intern registry text)
  | resolve id =>
    rw [perform, resolve_eq]
    exact himage _ _ id
  | record id => exact hanswer _ (serves_record registry id)
  | displayId id =>
    rw [perform, displayId_eq]
    exact himage _ _ id
  | isEmptySymbol id =>
    rw [perform, isEmptySymbol_eq]
    exact himage _ _ id
  | compare a b => exact hanswer _ (serves_compareBy _ registry a b)
  | caseCompare a b => exact hanswer _ (serves_compareBy _ registry a b)
  | upcase id => exact hanswer _ (serves_mapText _ registry id)
  | downcase id => exact hanswer _ (serves_mapText _ registry id)
  | capitalize id => exact hanswer _ (serves_mapText _ registry id)
  | swapCase id => exact hanswer _ (serves_mapText _ registry id)
  | setterOf id => exact hanswer _ (serves_setterOf registry id)
  | _ => exact serves_nil registry _

/-! ### Runs -/

/-- No operation of a run answers that the sequence numbers are exhausted. -/
def Completes (registry : Registry) : List Operation → Prop
  | [] => True
  | operation :: rest =>
    (registry.perform operation).1.isExhausted = false ∧
      (registry.perform operation).2.Completes rest

/-- What a run creates, in order, and the requests in which it does. -/
def history (registry : Registry) : List Operation → List Creation
  | [] => []
  | operation :: rest =>
    registry.table.history (registry.requests operation) ++
      (registry.perform operation).2.history rest

end Registry

end Interning
