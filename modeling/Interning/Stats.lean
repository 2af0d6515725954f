import Interning.Table
/-!
A summary of a table: how many records it holds, in all and by scope, and its counters. Rates
are binary64 quotients of counts, and zero where nothing was counted.
-/

set_option autoImplicit false
set_option relaxedAutoImplicit false

namespace Interning

/-- A summary of a table. -/
structure Stats where
  count : Nat
  counters : Counters
  perScope : Scope → Nat

/-- The quotient of two counts below `2 ^ 64`, each rounded to the nearest binary64 number. -/
def ratio (part whole : Nat) : Float :=
  if whole = 0 then 0.0 else part.toUInt64.toFloat / whole.toUInt64.toFloat

namespace Stats

/-- The number of internings. -/
def total (stats : Stats) : Nat :=
  stats.counters.hits + stats.counters.misses

/-- The share of internings that the table answered. -/
def hitRate (stats : Stats) : Float :=
  ratio stats.counters.hits stats.total

/-- The share of a capacity that the records take. -/
def loadFactor (stats : Stats) (capacity : Nat) : Float :=
  ratio stats.count capacity

/-- The number of records of every scope. -/
def histogram (stats : Stats) : List (Scope × Nat) :=
  Scope.all.map fun scope ↦ (scope, stats.perScope scope)

end Stats

/-- The summary of a table. -/
def Table.stats (table : Table) : Stats :=
  ⟨table.size, table.counters, table.countScope⟩

end Interning
