import Interning.Proofs.IdentifierLayout
import Mathlib.Algebra.Group.Nat.Defs

/-!
# Exchanging the tag of an identifier

`SymbolId.withScope` puts the tag of another scope in the place of an identifier's own. It takes any
word of 64 bits, whether or not the word was ever given out, and three borders meet in the words:
below `1000` lie the operators, which have no tag; the tag `2` belongs to no scope, although a word
may carry it; and a sequence number has 61 bits, so that the largest word has the largest number.

`SymbolId.ExchangesTags` says what becomes of a word. An operator is refused. Every other word takes
the tag of any scope and loses nothing but its own (`SymbolId.Retagged`), and it stays as it is under
the tag of its own scope, unless its tag is the unassigned one: such a word reads as junk and takes
the tag of junk. No exchange leads among the operators, because their border is a multiple of the
number of tags: the first sequence number outside them is `125`, and all of its tags lie outside.

The layout is a shift and a mask (`SymbolId.raw_ofParts`), and two identifiers with different parts
are different (`SymbolId.ofParts_inj`).
-/

set_option autoImplicit false
set_option relaxedAutoImplicit false

namespace Interning

namespace Scope

variable {scope : Scope} {tag : UInt64}

/-- A tag has three bits. -/
theorem toNat_lt_of_tag? (htag : scope.tag? = some tag) : tag.toNat < 8 := by
  cases scope <;> cases htag <;> decide

theorem ne_operator_of_tag? (htag : scope.tag? = some tag) : scope ≠ .operator := by
  rintro rfl
  simp [tag?] at htag

/-- Of the words of three bits, only one stands for no scope. -/
theorem ofTag?_eq_none_iff (h : tag.toNat < 8) : ofTag? tag = none ↔ tag = 2 := by
  have hall : ∀ n < 8, ofTag? (UInt64.ofNat n) = none ↔ UInt64.ofNat n = 2 := by decide
  rw [← UInt64.ofNat_toNat (x := tag)]
  exact hall tag.toNat h

end Scope

namespace SymbolId

variable {id : SymbolId} {sequence tag : UInt64} {scope : Scope}

/-! ### Bits -/

/-- The remainder by the number of tags is the low three bits. -/
theorem mod_tagCount (word : UInt64) : word % tagCount = word &&& 7 := by
  have hmask : word.toNat &&& 7 = word.toNat % 8 := Nat.and_two_pow_sub_one_eq_mod word.toNat 3
  apply UInt64.toNat_inj.mp
  rw [UInt64.toNat_mod, UInt64.toNat_and, toNat_tagCount]
  exact hmask.symm

/-- The factor between a sequence number and its identifiers is a shift by three bits. -/
theorem toNat_shiftLeft (sequence : UInt64) :
    (sequence <<< 3).toNat = 2 ^ 3 * (sequence.toNat % 2 ^ 61) := by
  have hwidth := Nat.mul_mod_mul_left (2 ^ 3) sequence.toNat (2 ^ 61)
  rw [UInt64.toNat_shiftLeft, Nat.shiftLeft_eq, Nat.mul_comm]
  exact hwidth

/-- An identifier is the sequence number, shifted, above the low bits of the tag, also where bits of
the number are lost. -/
theorem raw_ofParts (sequence tag : UInt64) :
    (ofParts sequence tag).raw = sequence <<< 3 ||| tag &&& 7 := by
  have hlow : tag.toNat % 8 < 2 ^ 3 := Nat.mod_lt _ (by decide)
  -- Over a number shifted by three bits, adding three bits and joining them is the same.
  have hjoin := Nat.two_pow_add_eq_or_of_lt hlow (sequence.toNat % 2 ^ 61)
  apply UInt64.toNat_inj.mp
  rw [← mod_tagCount, UInt64.toNat_or, toNat_shiftLeft, UInt64.toNat_mod, toNat_tagCount, ← hjoin]
  simp only [ofParts, UInt64.toNat_add, UInt64.toNat_mul, UInt64.toNat_mod, toNat_tagCount]
  omega

/-! ### Parts -/

/-- The parts of an identifier: a sequence number outside the operators' range, which has 61 bits,
and the tag of a scope. -/
structure Parts (sequence : UInt64) (scope : Scope) (tag : UInt64) : Prop where
  le_sequence : 125 ≤ sequence.toNat
  sequence_le : sequence.toNat ≤ 2 ^ 61 - 1
  tag_eq : scope.tag? = some tag

theorem Parts.low (h : Parts sequence scope tag) : 125 ≤ sequence :=
  UInt64.le_iff_toNat_le.mpr h.le_sequence

theorem Parts.high (h : Parts sequence scope tag) : sequence ≤ maxSequence := by
  have hle := h.sequence_le
  rw [le_maxSequence_iff]
  omega

theorem Parts.ofParts_eq (h : Parts sequence scope tag) :
    ofParts sequence tag = dynamic sequence scope := by
  rw [dynamic, h.tag_eq, Option.getD_some]

/-- No bit is lost between the parts and the identifier. -/
theorem ofParts_inj {other tag' : UInt64} (hsequence : sequence ≤ maxSequence)
    (hother : other ≤ maxSequence) (htag : tag.toNat < 8) (htag' : tag'.toNat < 8)
    (h : ofParts sequence tag = ofParts other tag') : sequence = other ∧ tag = tag' := by
  have hraw := toNat_raw_ofParts hsequence tag
  have hraw' := toNat_raw_ofParts hother tag'
  rw [h] at hraw
  constructor
  · exact UInt64.toNat_inj.mp (by omega)
  · exact UInt64.toNat_inj.mp (by omega)

/-! ### Exchanges -/

/-- One identifier is another with the tag of a scope in the place of its own. -/
structure Retagged (id : SymbolId) (scope : Scope) (other : SymbolId) : Prop where
  isOperator_eq : other.isOperator = false
  sequence_eq : other.sequence = id.sequence
  scope_eq : other.scope = scope
  /-- Of the tag that was exchanged nothing is left. -/
  withScope_eq : ∀ next : Scope, other.withScope next = id.withScope next

/-- What becomes of a word whose tag is exchanged. -/
structure ExchangesTags (id : SymbolId) : Prop where
  withScope_eq_none : id.raw.toNat < 1000 → ∀ scope : Scope, id.withScope scope = none
  exists_retagged : 1000 ≤ id.raw.toNat → ∀ scope tag, Scope.tag? scope = some tag →
    ∃ other, id.withScope scope = some other ∧ id.Retagged scope other
  /-- Only the unassigned tag is not given back. -/
  withScope_scope_iff : 1000 ≤ id.raw.toNat →
    (id.withScope id.scope = some id ↔ id.raw &&& 7 ≠ 2)

theorem withScope_of_isOperator (h : id.isOperator = true) (scope : Scope) :
    id.withScope scope = none := by
  rw [withScope, if_pos h]

/-- The operators' scope has no tag to give. -/
theorem withScope_operator (id : SymbolId) : id.withScope .operator = none := by
  unfold withScope
  split <;> rfl

theorem retagged_dynamic (h : id.isOperator = false) (hscope : scope ≠ .operator) :
    id.Retagged scope (dynamic (id.raw / tagCount) scope) := by
  have hlow := le_sequence_of_not_isOperator h
  have hhigh := sequence_le_maxSequence id
  constructor
  case isOperator_eq => exact isOperator_dynamic hlow hhigh scope
  case sequence_eq =>
    rw [sequence_dynamic hlow hhigh, sequence_eq_div h]
  case scope_eq => exact scope_dynamic hlow hhigh hscope
  case withScope_eq =>
    intro next
    by_cases hnext : next = .operator
    · rw [hnext, withScope_operator, withScope_operator]
    · rw [withScope_dynamic hlow hhigh scope hnext, withScope_eq_dynamic h hnext]

/-- A word with a scope's tag is made of its sequence number and this tag again. A word with the
unassigned tag reads as junk, and no word with the tag of junk is equal to it. -/
theorem withScope_scope_eq_iff (h : id.isOperator = false) :
    id.withScope id.scope = some id ↔ id.raw &&& 7 ≠ 2 := by
  have htag : (id.raw % tagCount).toNat < 8 := Nat.mod_lt _ (by decide)
  rw [withScope_eq_dynamic h (scope_ne_operator_of_not_isOperator h), Option.some.injEq,
    ← mod_tagCount, Ne, ← Scope.ofTag?_eq_none_iff htag, scope_eq_getD h]
  cases hof : Scope.ofTag? (id.raw % tagCount) with
  | some scope =>
    rw [Option.getD_some, dynamic, Scope.ofTag?_eq_some_iff.mp hof, Option.getD_some, ofParts_raw]
    simp
  | none =>
    simp only [Option.getD_none, not_true_eq_false, iff_false]
    intro hid
    have hmod := raw_mod_ofParts (sequence_le_maxSequence id) 7
    have hjunk : (ofParts (id.raw / tagCount) 7).raw % tagCount = id.raw % tagCount :=
      congrArg (fun id : SymbolId ↦ id.raw % tagCount) hid
    rw [← hjunk, hmod] at hof
    exact absurd hof (by decide)

theorem exchangesTags (id : SymbolId) : id.ExchangesTags := by
  constructor
  case withScope_eq_none =>
    intro hlow scope
    exact withScope_of_isOperator (isOperator_iff.mpr hlow) scope
  case exists_retagged =>
    intro hhigh scope tag htag
    have hdynamic := isOperator_eq_false_iff.mpr hhigh
    have hscope := Scope.ne_operator_of_tag? htag
    exact ⟨_, withScope_eq_dynamic hdynamic hscope, retagged_dynamic hdynamic hscope⟩
  case withScope_scope_iff =>
    intro hhigh
    exact withScope_scope_eq_iff (isOperator_eq_false_iff.mpr hhigh)

/-- Every word outside the operators' range takes the tag of every scope and keeps its sequence
number, every sequence number outside it is read back with its tag, and the parts of an identifier
are its own. -/
theorem exchangesTags_and_parts :
    (∀ id : SymbolId, id.ExchangesTags) ∧
      (∀ sequence tag, (ofParts sequence tag).raw = sequence <<< 3 ||| tag &&& 7) ∧
      (∀ sequence scope tag, Parts sequence scope tag →
        (ofParts sequence tag).sequence = sequence ∧ (ofParts sequence tag).scope = scope) ∧
      ∀ sequence scope tag sequence' scope' tag', Parts sequence scope tag →
        Parts sequence' scope' tag' → (sequence, tag) ≠ (sequence', tag') →
          ofParts sequence tag ≠ ofParts sequence' tag' := by
  refine ⟨exchangesTags, raw_ofParts, ?_, ?_⟩
  · intro sequence scope tag hparts
    rw [hparts.ofParts_eq]
    exact ⟨sequence_dynamic hparts.low hparts.high scope,
      scope_dynamic hparts.low hparts.high (Scope.ne_operator_of_tag? hparts.tag_eq)⟩
  · intro sequence scope tag sequence' scope' tag' hparts hparts' hne heq
    obtain ⟨rfl, rfl⟩ := ofParts_inj hparts.high hparts'.high
      (Scope.toNat_lt_of_tag? hparts.tag_eq) (Scope.toNat_lt_of_tag? hparts'.tag_eq) heq
    exact hne rfl

/-- The three borders: the last operator, the unassigned tag on the first sequence number, and the
largest sequence number. -/
theorem border_exchangesTags :
    (⟨999⟩ : SymbolId).withScope .setter = none ∧
      (∃ other, (⟨1002⟩ : SymbolId).withScope .localName = some other ∧
        Retagged ⟨1002⟩ .localName other) ∧
      (⟨1002⟩ : SymbolId).withScope (⟨1002⟩ : SymbolId).scope ≠ some ⟨1002⟩ ∧
      Parts 125 .localName 0 ∧ Parts 2305843009213693951 .junk 7 ∧
      (ofParts 2305843009213693951 7).sequence = 2305843009213693951 ∧
      ofParts 125 0 ≠ ofParts 2305843009213693951 7 := by
  obtain ⟨hexchanges, -, hread, hinj⟩ := exchangesTags_and_parts
  have hfirst : Parts 125 .localName 0 := ⟨by decide, by decide, rfl⟩
  have hlast : Parts 2305843009213693951 .junk 7 := ⟨by decide, by decide, rfl⟩
  refine ⟨(hexchanges ⟨999⟩).withScope_eq_none (by decide) .setter,
    (hexchanges ⟨1002⟩).exists_retagged (by decide) .localName 0 rfl, fun hown ↦ ?_, hfirst, hlast,
    (hread _ _ _ hlast).1, hinj _ _ _ _ _ _ hfirst hlast (by decide)⟩
  exact absurd rfl (((hexchanges ⟨1002⟩).withScope_scope_iff (by decide)).mp hown)

end SymbolId

end Interning
