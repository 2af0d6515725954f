import Interning.Registry
/-!
Sessions: the operations on a registry, and on a bare table, as data. `Registry.perform` answers
one operation and returns the registry it leaves behind, whatever the answer; `Registry.run`
performs a list of them in turn.
-/

set_option autoImplicit false
set_option relaxedAutoImplicit false

namespace Interning

/-- An operation on a registry. -/
inductive Operation where
  | intern (text : Text)
  | lookup (text : Text)
  | resolve (id : SymbolId)
  | record (id : SymbolId)
  | contains (id : SymbolId)
  | classify (text : Text)
  | scopeOf (id : SymbolId)
  | display (text : Text)
  | displayId (id : SymbolId)
  | allSymbols
  | records
  | isEmpty
  | compare (a b : SymbolId)
  | caseCompare (a b : SymbolId)
  | upcase (id : SymbolId)
  | downcase (id : SymbolId)
  | capitalize (id : SymbolId)
  | swapCase (id : SymbolId)
  | isEmptySymbol (id : SymbolId)
  | setterOf (id : SymbolId)
  | withScope (id : SymbolId) (scope : Scope)
  | stats
  | operatorTokens
  | config
  | describe

/-- An operation on a bare table. -/
inductive TableOperation where
  | register (token : Token)
  | startSequence (floor : UInt64)
  | intern (text : Text)
  | lookup (text : Text)
  | resolve (id : SymbolId)
  | record (id : SymbolId)
  | get (id : SymbolId)
  | contains (id : SymbolId)
  | withScope (id : SymbolId) (scope : Scope)
  | isEmpty
  | ids
  | records
  | stats

/-- What an operation answers. -/
inductive Answer where
  | done
  | symbol (id : SymbolId)
  | symbol? (id : Option SymbolId)
  | text (text : Text)
  | record (record : Record)
  | record? (record : Option Record)
  | flag (value : Bool)
  | scope (scope : Scope)
  | symbols (ids : List SymbolId)
  | records (records : List Record)
  | order? (order : Option Ordering)
  | stats (stats : Stats)
  | tokens (tokens : List Token)
  | config (config : RegistryConfig)
  | fault (fault : Fault)

namespace Answer

/-- The answer that an outcome gives. -/
def ofOutcome {α σ : Type} (answer : α → Answer) (outcome : Except Fault α × σ) : Answer × σ :=
  match outcome with
  | (.ok value, after) => (answer value, after)
  | (.error cause, after) => (.fault cause, after)

/-- The identifier that an answer holds, if it is an identifier. -/
def symbolOf? : Answer → Option SymbolId
  | .symbol id => some id
  | .symbol? id => id
  | _ => none

end Answer

/-- The answer to an operation, and the registry it leaves behind. -/
def Registry.perform (registry : Registry) : Operation → Answer × Registry
  | .intern text => Answer.ofOutcome .symbol (registry.intern text)
  | .lookup text => (.symbol? (registry.lookup text), registry)
  | .resolve id => Answer.ofOutcome .text (registry.resolve id)
  | .record id => Answer.ofOutcome .record (registry.record id)
  | .contains id => (.flag (registry.contains id), registry)
  | .classify text => (.scope (Interning.classify text), registry)
  | .scopeOf id => (.scope id.scope, registry)
  | .display text => (.text (Literal.literal text), registry)
  | .displayId id => Answer.ofOutcome .text (registry.displayId id)
  | .allSymbols => (.symbols registry.allSymbols, registry)
  | .records => (.records registry.records, registry)
  | .isEmpty => (.flag registry.isEmpty, registry)
  | .compare a b => Answer.ofOutcome .order? (registry.compare a b)
  | .caseCompare a b => Answer.ofOutcome .order? (registry.caseCompare a b)
  | .upcase id => Answer.ofOutcome .symbol (registry.upcase id)
  | .downcase id => Answer.ofOutcome .symbol (registry.downcase id)
  | .capitalize id => Answer.ofOutcome .symbol (registry.capitalize id)
  | .swapCase id => Answer.ofOutcome .symbol (registry.swapCase id)
  | .isEmptySymbol id => Answer.ofOutcome .flag (registry.isEmptySymbol id)
  | .setterOf id => Answer.ofOutcome .symbol? (registry.setterOf id)
  | .withScope id scope => (.symbol? (id.withScope scope), registry)
  | .stats => (.stats registry.stats, registry)
  | .operatorTokens => (.tokens Token.all, registry)
  | .config => (.config registry.config, registry)
  | .describe => (.text registry.describe, registry)

/-- The registry after a list of operations. -/
def Registry.run (registry : Registry) (operations : List Operation) : Registry :=
  operations.foldl (fun current operation ↦ (current.perform operation).2) registry

/-- The answer to an operation on a bare table, and the table it leaves behind. -/
def Table.perform (table : Table) : TableOperation → Answer × Table
  | .register token => (.symbol token.id, table.register token)
  | .startSequence floor => (.done, table.startSequence floor)
  | .intern text => Answer.ofOutcome .symbol (table.intern text)
  | .lookup text => (.symbol? (table.lookup text), table)
  | .resolve id => Answer.ofOutcome .text (table.resolve id)
  | .record id => Answer.ofOutcome .record (table.record id)
  | .get id => (.record? (table.get? id), table)
  | .contains id => (.flag (table.contains id), table)
  | .withScope id scope => (.symbol? (id.withScope scope), table)
  | .isEmpty => (.flag table.isEmpty, table)
  | .ids => (.symbols table.ids, table)
  | .records => (.records table.records, table)
  | .stats => (.stats table.stats, table)

/-- The table after a list of operations. -/
def Table.run (table : Table) (operations : List TableOperation) : Table :=
  operations.foldl (fun current operation ↦ (current.perform operation).2) table

end Interning
