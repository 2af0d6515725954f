import Interning.SymbolId
import Mathlib.Tactic.Common

/-!
# The layout of identifiers

A dynamic identifier is a sequence number above a three-bit tag. `SymbolId.dynamic` is the
identifier of a scope with a sequence number, and this module reads its parts back: on the
sequence numbers from `125`, the first whose identifiers leave the operators' range, up to
`maxSequence`, the last that fits above a tag, no bit is lost (`toNat_raw_ofParts`).

`isOperator_dynamic`, `sequence_dynamic` and `scope_dynamic` are the three readings, and
`withScope_dynamic` shows that exchanging the tag keeps the sequence number. Two dynamic
identifiers are equal only when both parts are (`dynamic_inj`), and every identifier whose tag
is not junk's is dynamic (`eq_dynamic_of_scope`), so a raw word that reads as a setter is the
setter of one sequence number.
-/

set_option autoImplicit false
set_option relaxedAutoImplicit false

namespace Interning.SymbolId

/-- The dynamic identifier of a scope with a sequence number. The operators' scope has no tag
and takes that of junk. -/
def dynamic (sequence : UInt64) (scope : Scope) : SymbolId :=
  ofParts sequence (scope.tag?.getD 7)

/-! ### Words as numbers -/

theorem le_maxSequence_iff {sequence : UInt64} :
    sequence ≤ maxSequence ↔ sequence.toNat < 2305843009213693952 := by
  rw [UInt64.le_iff_toNat_le]
  change sequence.toNat ≤ 2305843009213693951 ↔ _
  omega

theorem toNat_succ {sequence : UInt64} (h : sequence < maxSequence) :
    (sequence + 1).toNat = sequence.toNat + 1 := by
  have hbound := le_maxSequence_iff.mp (UInt64.le_of_lt h)
  have hone : (1 : UInt64).toNat = 1 := rfl
  rw [UInt64.toNat_add, hone]
  omega

theorem lt_succ {sequence : UInt64} (h : sequence < maxSequence) : sequence < sequence + 1 := by
  rw [UInt64.lt_iff_toNat_lt, toNat_succ h]
  omega

theorem succ_le_maxSequence {sequence : UInt64} (h : sequence < maxSequence) :
    sequence + 1 ≤ maxSequence := by
  rw [UInt64.lt_iff_toNat_lt] at h
  rw [UInt64.le_iff_toNat_le, toNat_succ (UInt64.lt_iff_toNat_lt.mpr h)]
  exact h

theorem le_succ_iff {sequence other : UInt64} (h : sequence < maxSequence) :
    other ≤ sequence + 1 ↔ other ≤ sequence ∨ other = sequence + 1 := by
  rw [UInt64.le_iff_toNat_le, UInt64.le_iff_toNat_le, ← UInt64.toNat_inj, toNat_succ h]
  omega

theorem isOperator_iff {id : SymbolId} : id.isOperator = true ↔ id.raw.toNat < 1000 := by
  rw [isOperator, decide_eq_true_iff, UInt64.lt_iff_toNat_lt]
  rfl

theorem isOperator_eq_false_iff {id : SymbolId} :
    id.isOperator = false ↔ 1000 ≤ id.raw.toNat := by
  rw [← Bool.not_eq_true, isOperator_iff, Nat.not_lt]

@[simp]
theorem toNat_tagCount : tagCount.toNat = 8 := rfl

/-- Above a tag, a sequence number of at most 61 bits loses none of them. -/
theorem toNat_raw_ofParts {sequence : UInt64} (h : sequence ≤ maxSequence) (tag : UInt64) :
    (ofParts sequence tag).raw.toNat = sequence.toNat * 8 + tag.toNat % 8 := by
  have hbound := le_maxSequence_iff.mp h
  simp only [ofParts, UInt64.toNat_add, UInt64.toNat_mul, UInt64.toNat_mod,
    toNat_tagCount]
  omega

/-- A dynamic identifier is eight times its sequence number and the tag of its scope. -/
theorem toNat_raw_dynamic {sequence : UInt64} (h : sequence ≤ maxSequence) {scope : Scope}
    (hscope : scope ≠ .operator) :
    ∃ tag, scope.tag? = some tag ∧
      (dynamic sequence scope).raw.toNat = sequence.toNat * 8 + tag.toNat := by
  cases scope with
  | operator => exact absurd rfl hscope
  | _ => exact ⟨_, rfl, toNat_raw_ofParts h _⟩

theorem raw_div_ofParts {sequence : UInt64} (h : sequence ≤ maxSequence) (tag : UInt64) :
    (ofParts sequence tag).raw / tagCount = sequence := by
  have hraw := toNat_raw_ofParts h tag
  apply UInt64.toNat_inj.mp
  rw [UInt64.toNat_div, hraw, toNat_tagCount]
  omega

theorem raw_mod_ofParts {sequence : UInt64} (h : sequence ≤ maxSequence) (tag : UInt64) :
    (ofParts sequence tag).raw % tagCount = tag % tagCount := by
  have hraw := toNat_raw_ofParts h tag
  apply UInt64.toNat_inj.mp
  rw [UInt64.toNat_mod, UInt64.toNat_mod, hraw, toNat_tagCount]
  omega

/-- An identifier is put together again from its parts. -/
theorem ofParts_raw (id : SymbolId) : ofParts (id.raw / tagCount) (id.raw % tagCount) = id := by
  have hbound := id.raw.toNat_lt
  have hraw : (ofParts (id.raw / tagCount) (id.raw % tagCount)).raw = id.raw := by
    apply UInt64.toNat_inj.mp
    simp only [ofParts, UInt64.toNat_add, UInt64.toNat_mul, UInt64.toNat_mod, UInt64.toNat_div,
      toNat_tagCount]
    omega
  cases id
  exact congrArg SymbolId.mk hraw

/-! ### Words outside the operators' range -/

section Dynamic

variable {id : SymbolId} (h : id.isOperator = false)

include h

theorem sequence_eq_div : id.sequence = id.raw / tagCount := by
  rw [SymbolId.sequence, if_neg (by simp [h])]

theorem scope_eq_getD : id.scope = (Scope.ofTag? (id.raw % tagCount)).getD .junk := by
  rw [SymbolId.scope, if_neg (by simp [h])]

/-- A word takes the tag of every scope and keeps its sequence number. -/
theorem withScope_eq_dynamic {scope : Scope} (hscope : scope ≠ .operator) :
    id.withScope scope = some (dynamic (id.raw / tagCount) scope) := by
  rw [withScope, if_neg (by simp [h])]
  cases scope with
  | operator => exact absurd rfl hscope
  | _ => rfl

end Dynamic

/-! ### The parts of a dynamic identifier -/

section Parts

variable {sequence : UInt64} (hlow : 125 ≤ sequence) (hhigh : sequence ≤ maxSequence)

include hlow hhigh

theorem isOperator_ofParts (tag : UInt64) : (ofParts sequence tag).isOperator = false := by
  have hraw := toNat_raw_ofParts hhigh tag
  have hlow' : 125 ≤ sequence.toNat := UInt64.le_iff_toNat_le.mp hlow
  rw [isOperator_eq_false_iff]
  omega

theorem isOperator_dynamic (scope : Scope) : (dynamic sequence scope).isOperator = false :=
  isOperator_ofParts hlow hhigh _

theorem sequence_dynamic (scope : Scope) : (dynamic sequence scope).sequence = sequence := by
  rw [sequence_eq_div (isOperator_dynamic hlow hhigh scope)]
  exact raw_div_ofParts hhigh _

theorem scope_dynamic {scope : Scope} (h : scope ≠ .operator) :
    (dynamic sequence scope).scope = scope := by
  have hmod := raw_mod_ofParts hhigh (scope.tag?.getD 7)
  rw [scope_eq_getD (isOperator_dynamic hlow hhigh scope), dynamic, hmod]
  cases scope with
  | operator => exact absurd rfl h
  | _ => rfl

theorem withScope_dynamic (scope : Scope) {other : Scope} (h : other ≠ .operator) :
    (dynamic sequence scope).withScope other = some (dynamic sequence other) := by
  have hdiv : (dynamic sequence scope).raw / tagCount = sequence := raw_div_ofParts hhigh _
  rw [withScope_eq_dynamic (isOperator_dynamic hlow hhigh scope) h, hdiv]

theorem dynamic_inj {other : UInt64} (hlow' : 125 ≤ other) (hhigh' : other ≤ maxSequence)
    {scope scope' : Scope} (hscope : scope ≠ .operator) (hscope' : scope' ≠ .operator)
    (h : dynamic sequence scope = dynamic other scope') : sequence = other ∧ scope = scope' := by
  constructor
  · rw [← sequence_dynamic hlow hhigh scope, h, sequence_dynamic hlow' hhigh']
  · rw [← scope_dynamic hlow hhigh hscope, h, scope_dynamic hlow' hhigh' hscope']

end Parts

/-! ### Raw words -/

theorem sequence_le_maxSequence (id : SymbolId) : id.raw / tagCount ≤ maxSequence := by
  have hbound := id.raw.toNat_lt
  rw [le_maxSequence_iff, UInt64.toNat_div, toNat_tagCount]
  omega

theorem le_sequence_of_not_isOperator {id : SymbolId} (h : id.isOperator = false) :
    125 ≤ id.raw / tagCount := by
  have hraw := isOperator_eq_false_iff.mp h
  rw [UInt64.le_iff_toNat_le, UInt64.toNat_div, toNat_tagCount]
  change 125 ≤ _
  omega

theorem isOperator_eq_false_of_scope {id : SymbolId} (h : id.scope ≠ .operator) :
    id.isOperator = false := by
  by_contra hrange
  simp only [Bool.not_eq_false] at hrange
  exact h (by simp [SymbolId.scope, hrange])

/-- No tag stands for the operators' scope. -/
theorem scope_ne_operator_of_not_isOperator {id : SymbolId} (h : id.isOperator = false) :
    id.scope ≠ .operator := by
  rw [scope_eq_getD h]
  cases hof : Scope.ofTag? (id.raw % tagCount) with
  | none => simp
  | some scope =>
    rintro rfl
    exact absurd (Scope.ofTag?_eq_some_iff.mp hof) (by simp [Scope.tag?])

/-- A word that reads as a scope other than the operators' and junk is the dynamic identifier of
that scope with its sequence number. -/
theorem eq_dynamic_of_scope {id : SymbolId} (hoperator : id.scope ≠ .operator)
    (hjunk : id.scope ≠ .junk) :
    id = dynamic id.sequence id.scope ∧ 125 ≤ id.sequence ∧ id.sequence ≤ maxSequence := by
  have hrange := isOperator_eq_false_of_scope hoperator
  have htag : id.scope.tag? = some (id.raw % tagCount) := by
    rw [← Scope.ofTag?_eq_some_iff]
    rw [scope_eq_getD hrange] at hjunk ⊢
    cases hof : Scope.ofTag? (id.raw % tagCount) with
    | none => simp [hof] at hjunk
    | some scope => rfl
  rw [sequence_eq_div hrange]
  refine ⟨?_, le_sequence_of_not_isOperator hrange, sequence_le_maxSequence id⟩
  rw [dynamic, htag, Option.getD_some, ofParts_raw]

end Interning.SymbolId
