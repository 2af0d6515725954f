import Std.Data.TreeMap
import Interning.Classifier
/-!
The symbol table: a map from texts to identifiers, a map from identifiers to texts, and the
last sequence number that was given out.

`Table.intern` gives a text its identifier and records a new one. The setter of a name shares
the sequence number of the name, so interning a setter interns the name first. `Table.resolve`
answers the text of an identifier, and derives the setter of a recorded name when asked for it.
Operations return the table they leave behind together with their outcome, also when they fail:
an interning that runs out of sequence numbers keeps the misses it has counted.
-/

set_option autoImplicit false
set_option relaxedAutoImplicit false

namespace Interning

/-- Why an operation on symbols has no answer. -/
inductive Fault where
  | exhausted (last : UInt64)
  | notFound (id : SymbolId)
deriving DecidableEq

/-- The text that reports a fault. -/
def Fault.message : Fault → Text
  | .exhausted last =>
    "symbol sequence space exhausted (last sequence ".toList ++
      Numeral.decimal last.toNat ++ [')']
  | .notFound id => "Symbol not found: id 0x".toList ++ Numeral.hexadecimal id.raw.toNat

/-- A name with its identifier. -/
structure Record where
  id : SymbolId
  text : Text
deriving DecidableEq

/-- The counted events of a table: internings answered from the table, internings that
classified their text, those of them that found the text taken when they recorded it, and
setters derived by resolution. The counters are words of 64 bits that begin anew after `2 ^ 64`
events; they are numbers here, which is the same up to there. -/
structure Counters where
  hits : Nat
  misses : Nat
  races : Nat
  derived : Nat
deriving DecidableEq

/-- Both directions of the table, the last sequence number given out, and the counters, which
stand still unless counting is on. A record consists of an identifier and a text; the identifier
is the key here and not held a second time, so that a record has the identifier that it is found
under by construction. -/
structure Table where
  idOf : Std.TreeMap Text SymbolId
  textOf : Std.TreeMap SymbolId Text
  lastSequence : UInt64
  counting : Bool
  counters : Counters

namespace Table

/-- The table without names. -/
def empty (counting : Bool) : Table :=
  ⟨∅, ∅, 0, counting, ⟨0, 0, 0, 0⟩⟩

/-! ### Reading -/

/-- The identifier of a recorded text. -/
def lookup (table : Table) (text : Text) : Option SymbolId :=
  table.idOf[text]?

/-- The record of an identifier. -/
def get? (table : Table) (id : SymbolId) : Option Record :=
  table.textOf[id]?.map (Record.mk id)

/-- Whether an identifier has a record. -/
def contains (table : Table) (id : SymbolId) : Bool :=
  table.textOf.contains id

/-- The number of records. -/
def size (table : Table) : Nat :=
  table.textOf.size

/-- The recorded identifiers in increasing order. -/
def ids (table : Table) : List SymbolId :=
  table.textOf.keys

/-- The records in the order of their identifiers. -/
def records (table : Table) : List Record :=
  table.textOf.toList.map fun entry ↦ ⟨entry.1, entry.2⟩

/-- Whether nothing is recorded. -/
def isEmpty (table : Table) : Bool :=
  table.textOf.isEmpty

/-- The number of records whose identifier carries a scope. -/
def countScope (table : Table) (scope : Scope) : Nat :=
  table.ids.countP (·.scope == scope)

theorem get?_eq_some_iff {table : Table} {id : SymbolId} {record : Record} :
    table.get? id = some record ↔ record.id = id ∧ table.textOf[id]? = some record.text := by
  cases record
  simp only [get?, Option.map_eq_some_iff, Record.mk.injEq]
  constructor
  · rintro ⟨_, h, rfl, rfl⟩
    exact ⟨rfl, h⟩
  · rintro ⟨rfl, h⟩
    exact ⟨_, h, rfl, rfl⟩

/-- The records are what the map of identifiers holds. -/
theorem mem_records_iff {table : Table} {record : Record} :
    record ∈ table.records ↔ table.get? record.id = some record := by
  obtain ⟨id, text⟩ := record
  simp only [records, List.mem_map, Prod.exists, Record.mk.injEq,
    Std.TreeMap.mem_toList_iff_getElem?_eq_some, get?_eq_some_iff, true_and]
  constructor
  · rintro ⟨_, _, hentry, rfl, rfl⟩
    exact hentry
  · intro hentry
    exact ⟨id, text, hentry, rfl, rfl⟩

theorem ids_eq_map_records (table : Table) : table.ids = table.records.map Record.id := by
  rw [ids, records, List.map_map, ← Std.TreeMap.map_fst_toList_eq_keys]
  rfl

theorem length_ids (table : Table) : table.ids.length = table.size := by
  rw [ids, Std.TreeMap.length_keys, size]

theorem nodup_ids (table : Table) : table.ids.Nodup :=
  Std.TreeMap.nodup_keys

theorem contains_eq_isSome_get? (table : Table) (id : SymbolId) :
    table.contains id = (table.get? id).isSome := by
  rw [contains, get?, Option.isSome_map, Std.TreeMap.contains_eq_isSome_getElem?]

/-! ### Counting -/

/-- Changes the counters when counting is on. -/
def count (table : Table) (event : Counters → Counters) : Table :=
  if table.counting then { table with counters := event table.counters } else table

def countHit (table : Table) : Table :=
  table.count fun counters ↦ { counters with hits := counters.hits + 1 }

def countMiss (table : Table) : Table :=
  table.count fun counters ↦ { counters with misses := counters.misses + 1 }

def countRace (table : Table) : Table :=
  table.count fun counters ↦ { counters with races := counters.races + 1 }

def countDerived (table : Table) : Table :=
  table.count fun counters ↦ { counters with derived := counters.derived + 1 }

/-! ### Recording -/

/-- Writes a text and an identifier into both maps. -/
def insert (table : Table) (text : Text) (id : SymbolId) : Table :=
  { table with
    idOf := table.idOf.insert text id
    textOf := table.textOf.insert id text }

theorem lookup_insert (table : Table) (text other : Text) (id : SymbolId) :
    (table.insert text id).lookup other = if text = other then some id else table.lookup other := by
  simp [lookup, insert, Std.TreeMap.getElem?_insert]

theorem get?_insert (table : Table) (text : Text) (id other : SymbolId) :
    (table.insert text id).get? other =
      if id = other then some ⟨id, text⟩ else table.get? other := by
  by_cases h : id = other
  · simp [get?, insert, h]
  · simp [get?, insert, Std.TreeMap.getElem?_insert, h]

/-- Records an operator under its reserved identifier, unless its text is recorded already. -/
def register (table : Table) (token : Token) : Table :=
  match table.lookup token.text with
  | some _ => table
  | none => table.insert token.text token.id

/-- Declares a sequence number to be the last one given out. -/
def startSequence (table : Table) (floor : UInt64) : Table :=
  { table with lastSequence := floor }

/-- Takes the next sequence number for an identifier of the given scope. -/
def fresh (table : Table) (scope : Scope) : Except Fault SymbolId × Table :=
  if table.lastSequence < SymbolId.maxSequence then
    let next := table.lastSequence + 1
    (.ok (SymbolId.ofParts next (scope.tag?.getD 7)), { table with lastSequence := next })
  else (.error (.exhausted table.lastSequence), table)

/-- Records a text under an identifier; a text that is taken keeps the identifier it has. -/
def publish (table : Table) (text : Text) (id : SymbolId) : SymbolId × Table :=
  match table.lookup text with
  | some taken => (taken, table.countRace)
  | none => (id, table.insert text id)

/-- A text that is not taken is recorded. -/
theorem publish_of_lookup_eq_none {table : Table} {text : Text} (h : table.lookup text = none)
    (id : SymbolId) : table.publish text id = (id, table.insert text id) := by
  simp [publish, h]

/-- The identifier of a text, which is recorded if it is new. -/
def intern (table : Table) (text : Text) : Except Fault SymbolId × Table :=
  match table.lookup text with
  | some id => (.ok id, table.countHit)
  | none =>
    let missed := table.countMiss
    let allocated : Except Fault SymbolId × Table :=
      match _isSetter : classify text with
      | .setter =>
        match missed.intern text.dropLast with
        | (.ok base, after) =>
          match base.withScope .setter with
          | some id => (.ok id, after)
          | none => after.fresh .junk
        | failed => failed
      | .operator =>
        match Token.find? text with
        | some token => (.ok token.id, missed)
        | none => missed.fresh .junk
      | scope => missed.fresh scope
    match allocated with
    | (.ok id, after) => let (published, after) := after.publish text id; (.ok published, after)
    | failed => failed
termination_by text.length
decreasing_by
  have hpos := List.length_pos_iff.mpr (ne_nil_of_classify_eq_setter _isSetter)
  rw [List.length_dropLast]
  omega

/-! ### Resolving -/

/-- The name that a setter's identifier would be the setter of: the local name or else the
constant with the same sequence number. -/
def reader? (table : Table) (id : SymbolId) : Option Record :=
  [Scope.localName, Scope.constant].findSome? fun scope ↦ (id.withScope scope).bind table.get?

/-- Interns the setter of a recorded name in order to answer for the setter's identifier. -/
def deriveSetter (table : Table) (id : SymbolId) : Except Fault (Option Record) × Table :=
  if id.scope = .setter then
    match table.reader? id with
    | none => (.ok none, table)
    | some base =>
      match table.intern (base.text ++ ['=']) with
      | (.ok derived, after) =>
        if derived = id then (.ok (after.countDerived.get? id), after.countDerived)
        else (.ok none, after)
      | (.error fault, after) => (.error fault, after)
  else (.ok none, table)

/-- The record of an identifier, derived if it is the setter of a recorded name. -/
def record (table : Table) (id : SymbolId) : Except Fault Record × Table :=
  match table.get? id with
  | some record => (.ok record, table)
  | none =>
    match table.deriveSetter id with
    | (.ok (some record), after) => (.ok record, after)
    | (.ok none, after) => (.error (.notFound id), after)
    | (.error fault, after) => (.error fault, after)

/-- The text of an identifier, derived if it is the setter of a recorded name. -/
def resolve (table : Table) (id : SymbolId) : Except Fault Text × Table :=
  match table.record id with
  | (.ok record, after) => (.ok record.text, after)
  | (.error fault, after) => (.error fault, after)

end Table

end Interning
