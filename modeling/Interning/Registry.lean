import Interning.Literal
import Interning.RegistryConfig
import Interning.Stats
/-!
The symbol registry: a table in which the operators are registered and whose sequence numbers
start at the configured floor, so that nothing can be interned before the operators are.

Every operation returns the registry it leaves behind, since resolving an identifier may record
the setter it derives. An identifier without a name is a fault of the operations that must
answer a text and no answer of those that compare.
-/

set_option autoImplicit false
set_option relaxedAutoImplicit false

namespace Interning

/-- A table with the operators, and the setup it was built with. -/
structure Registry where
  config : RegistryConfig
  table : Table

namespace Registry

/-- The registry of a setup that has been checked: the operators in order, then the floor. -/
def bootstrap (config : RegistryConfig) : Registry :=
  let registered := Token.all.foldl Table.register (Table.empty config.statsEnabled)
  ⟨config, registered.startSequence config.sequenceFloor⟩

/-- The registry of a setup, unless the setup is refused. -/
def create (config : RegistryConfig) : Except ConfigError Registry :=
  match config.validate with
  | .ok () => .ok (bootstrap config)
  | .error cause => .error cause

/-- An outcome on the table as an outcome on the registry. -/
def onTable {α : Type} (registry : Registry) (outcome : Except Fault α × Table) :
    Except Fault α × Registry :=
  (outcome.1, { registry with table := outcome.2 })

/-! ### Names and identifiers -/

/-- The identifier of a text, which is recorded if it is new. -/
def intern (registry : Registry) (text : Text) : Except Fault SymbolId × Registry :=
  registry.onTable (registry.table.intern text)

/-- The identifier of a recorded text. -/
def lookup (registry : Registry) (text : Text) : Option SymbolId :=
  registry.table.lookup text

/-- The text of an identifier. -/
def resolve (registry : Registry) (id : SymbolId) : Except Fault Text × Registry :=
  registry.onTable (registry.table.resolve id)

/-- The record of an identifier. -/
def record (registry : Registry) (id : SymbolId) : Except Fault Record × Registry :=
  registry.onTable (registry.table.record id)

/-- Whether an identifier has a record; nothing is derived. -/
def contains (registry : Registry) (id : SymbolId) : Bool :=
  registry.table.contains id

/-- The symbol literal of an identifier. -/
def displayId (registry : Registry) (id : SymbolId) : Except Fault Text × Registry :=
  match registry.resolve id with
  | (.ok text, after) => (.ok (Literal.literal text), after)
  | (.error fault, after) => (.error fault, after)

/-- Whether the text of an identifier is empty. -/
def isEmptySymbol (registry : Registry) (id : SymbolId) : Except Fault Bool × Registry :=
  match registry.resolve id with
  | (.ok text, after) => (.ok text.isEmpty, after)
  | (.error fault, after) => (.error fault, after)

/-- The text of an identifier, or nothing where it has no name. -/
def text? (registry : Registry) (id : SymbolId) : Except Fault (Option Text) × Registry :=
  match registry.resolve id with
  | (.ok text, after) => (.ok (some text), after)
  | (.error (.notFound _), after) => (.ok none, after)
  | (.error (.exhausted last), after) => (.error (.exhausted last), after)

/-- The identifier of the setter of a recorded local name or constant. The setter is recorded
if it is new. -/
def setterOf (registry : Registry) (id : SymbolId) : Except Fault (Option SymbolId) × Registry :=
  if (id.scope = .localName ∨ id.scope = .constant) ∧ registry.contains id = true then
    match id.withScope .setter with
    | none => (.ok none, registry)
    | some setter =>
      match registry.text? setter with
      | (.ok found, after) => (.ok (found.map fun _ ↦ setter), after)
      | (.error fault, after) => (.error fault, after)
  else (.ok none, registry)

/-! ### Order -/

/-- The order of two identifiers by a key of their texts. The second identifier is resolved
only when the first has a name. -/
def compareBy (key : Text → Text) (registry : Registry) (a b : SymbolId) :
    Except Fault (Option Ordering) × Registry :=
  match registry.text? a with
  | (.ok (some first), after) =>
    match after.text? b with
    | (.ok (some second), after) => (.ok (some (compare (key first) (key second))), after)
    | (.ok none, after) => (.ok none, after)
    | (.error fault, after) => (.error fault, after)
  | (.ok none, after) => (.ok none, after)
  | (.error fault, after) => (.error fault, after)

/-- The order of two identifiers by their texts. -/
def compare (registry : Registry) (a b : SymbolId) : Except Fault (Option Ordering) × Registry :=
  compareBy id registry a b

/-- The order of two identifiers by their texts with ASCII capitals read as small letters. -/
def caseCompare (registry : Registry) (a b : SymbolId) :
    Except Fault (Option Ordering) × Registry :=
  compareBy (·.map Char.toLower) registry a b

/-! ### Letter case -/

/-- The identifier of the image of an identifier's text. -/
def mapText (image : Text → Text) (registry : Registry) (id : SymbolId) :
    Except Fault SymbolId × Registry :=
  match registry.resolve id with
  | (.ok text, after) => after.intern (image text)
  | (.error fault, after) => (.error fault, after)

def upcase (registry : Registry) (id : SymbolId) : Except Fault SymbolId × Registry :=
  mapText Text.upcase registry id

def downcase (registry : Registry) (id : SymbolId) : Except Fault SymbolId × Registry :=
  mapText Text.downcase registry id

def capitalize (registry : Registry) (id : SymbolId) : Except Fault SymbolId × Registry :=
  mapText Text.capitalize registry id

def swapCase (registry : Registry) (id : SymbolId) : Except Fault SymbolId × Registry :=
  mapText Text.swapCase registry id

/-! ### Contents -/

/-- The recorded identifiers in increasing order, operators included. -/
def allSymbols (registry : Registry) : List SymbolId :=
  registry.table.ids

/-- The records in the order of their identifiers. -/
def records (registry : Registry) : List Record :=
  registry.table.records

/-- The number of records. -/
def size (registry : Registry) : Nat :=
  registry.table.size

/-- Whether nothing is recorded. -/
def isEmpty (registry : Registry) : Bool :=
  registry.table.isEmpty

/-- The summary of the registry's table. -/
def stats (registry : Registry) : Stats :=
  registry.table.stats

/-- The text that shows a registry by its size and its setup. -/
def describe (registry : Registry) : Text :=
  "SymbolRegistry \x7b len: ".toList ++ Numeral.decimal registry.size ++
    ", config: ".toList ++ registry.config.describe ++ " \x7d".toList

end Registry

end Interning
