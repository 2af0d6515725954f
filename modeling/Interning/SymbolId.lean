import Interning.Numeral
import Interning.Scope
/-!
Identifiers of symbols. An identifier is one 64-bit word. Words below `SymbolId.reservedLimit`
are the operators'; every other word holds a sequence number above a three-bit scope tag, and
`SymbolId.withScope` exchanges the tag and keeps the sequence number.
-/

set_option autoImplicit false
set_option relaxedAutoImplicit false

namespace Interning

/-- The integer handle of a name. -/
structure SymbolId where
  raw : UInt64
deriving DecidableEq, Repr

namespace SymbolId

/-- Identifiers are ordered by their words. -/
instance : Ord SymbolId :=
  ⟨compareOn raw⟩

instance : Std.TransOrd SymbolId :=
  inferInstanceAs (Std.TransCmp (compareOn SymbolId.raw))

instance : Std.LawfulEqOrd SymbolId where
  eq_of_compare {a b} h := by
    have hraw : a.raw = b.raw := Std.LawfulEqOrd.eq_of_compare (α := UInt64) h
    cases a; cases b; simp_all

/-- The identifiers below this limit are the operators'. -/
def reservedLimit : UInt64 := 1000

/-- The number of tags, the factor between a sequence number and its identifiers. -/
def tagCount : UInt64 := 8

/-- The largest sequence number that fits above a tag. -/
def maxSequence : UInt64 := 2305843009213693951

/-- The dynamic identifier with a sequence number and a tag. -/
def ofParts (sequence tag : UInt64) : SymbolId :=
  ⟨sequence * tagCount + tag % tagCount⟩

/-- Whether an identifier lies in the operators' range. -/
def isOperator (id : SymbolId) : Bool :=
  id.raw < reservedLimit

/-- The sequence number of a dynamic identifier; an operator has none and answers zero. -/
def sequence (id : SymbolId) : UInt64 :=
  if id.isOperator then 0 else id.raw / tagCount

/-- The scope that an identifier carries. The unassigned tag reads as junk. -/
def scope (id : SymbolId) : Scope :=
  if id.isOperator then .operator else (Scope.ofTag? (id.raw % tagCount)).getD .junk

/-- The identifier with the same sequence number and the tag of another scope. Operators have
no tag to exchange, and the operators' scope no tag to give. -/
def withScope (id : SymbolId) (scope : Scope) : Option SymbolId :=
  if id.isOperator then none else scope.tag?.map (ofParts (id.raw / tagCount))

/-- The short label of an identifier. -/
def label (id : SymbolId) : Text :=
  '#' :: Numeral.decimal id.raw.toNat

end SymbolId

end Interning
