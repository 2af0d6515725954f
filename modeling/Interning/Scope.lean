/-!
The lexical category of a name. Every scope but the operators' has a three-bit tag, which a
dynamic identifier carries in its low bits; the tag 2 is unassigned.
-/

set_option autoImplicit false
set_option relaxedAutoImplicit false

namespace Interning

/-- The lexical category of a name. -/
inductive Scope where
  | localName
  | instanceVariable
  | globalVariable
  | setter
  | constant
  | classVariable
  | junk
  | operator
deriving DecidableEq, Repr

namespace Scope

/-- Every scope, in the order of the tags with the operators last. -/
def all : List Scope :=
  [.localName, .instanceVariable, .globalVariable, .setter, .constant, .classVariable, .junk,
    .operator]

/-- The tag of a scope in a dynamic identifier. -/
def tag? : Scope → Option UInt64
  | .localName => some 0
  | .instanceVariable => some 1
  | .globalVariable => some 3
  | .setter => some 4
  | .constant => some 5
  | .classVariable => some 6
  | .junk => some 7
  | .operator => none

/-- The scope that a tag stands for. -/
def ofTag? (tag : UInt64) : Option Scope :=
  if tag = 0 then some .localName
  else if tag = 1 then some .instanceVariable
  else if tag = 3 then some .globalVariable
  else if tag = 4 then some .setter
  else if tag = 5 then some .constant
  else if tag = 6 then some .classVariable
  else if tag = 7 then some .junk
  else none

/-- The word that names a scope in every output. -/
def name : Scope → String
  | .localName => "local"
  | .instanceVariable => "instance"
  | .globalVariable => "global"
  | .setter => "attrset"
  | .constant => "constant"
  | .classVariable => "class"
  | .junk => "junk"
  | .operator => "operator"

/-- The scope that a word names. -/
def ofName? (word : String) : Option Scope :=
  all.find? fun scope ↦ scope.name == word

/-- Decoding a tag gives back the scope that has it. -/
theorem ofTag?_eq_some_iff {tag : UInt64} {scope : Scope} :
    ofTag? tag = some scope ↔ scope.tag? = some tag := by
  constructor
  · intro h
    unfold ofTag? at h
    repeat' split at h
    all_goals simp_all [tag?]
    all_goals subst h; rfl
  · cases scope <;> intro h <;> simp only [tag?, Option.some.injEq, reduceCtorEq] at h <;>
      subst h <;> decide

end Scope

end Interning
