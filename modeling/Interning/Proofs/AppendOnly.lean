import Interning.Proofs.ResolutionOutcome
import Interning.Proofs.RegistrySteps

/-!
# A registry only grows

Recording a text writes into both maps without looking at what they hold, and several operations
record a text on the way to an answer, or on the way to a failure. Nothing is lost all the same: an
interning writes at a free text and under a free identifier, in each of its six cases
(`Table.Interns.grows`), and a run is a sequence of internings (`Table.Steps.grows`).

`Registry.Keeps` says this of two registries, together with what it means for the operators: they
keep the identifiers that are reserved for them. `Registry.Reachable.keeps` proves it of every
operation and of every run.
-/

set_option autoImplicit false
set_option relaxedAutoImplicit false

namespace Interning

namespace Registry

/-- A registry keeps the handles of another, and the operators their reserved identifiers. -/
structure Keeps (registry after : Registry) : Prop where
  /-- A text that has an identifier keeps it. -/
  lookup_eq : ∀ text id, registry.lookup text = some id → after.lookup text = some id
  /-- An identifier that has a record keeps its text. -/
  get?_eq : ∀ text id, registry.table.get? id = some ⟨id, text⟩ →
    after.table.get? id = some ⟨id, text⟩
  intern_operator : ∀ token ∈ Token.all, (after.intern token.text).1 = .ok token.id
  resolve_operator : ∀ token ∈ Token.all, (after.resolve token.id).1 = .ok token.text

variable {floor : UInt64} {registry after : Registry}

theorem keeps_of_grows (h : registry.table.Grows floor after.table) : registry.Keeps after where
  lookup_eq := h.extends_table.lookup_eq
  get?_eq text id hget := h.extends_table.get?_eq id ⟨id, text⟩ hget
  intern_operator token htoken := by
    have hlookup := h.wellFormed.operator token htoken
    rw [intern, onTable, Table.intern_of_lookup_eq_some hlookup]
  resolve_operator token htoken := by
    have hlookup := h.wellFormed.operator token htoken
    rw [resolve, onTable, h.wellFormed.resolve_of_lookup hlookup]

/-- No operation and no run takes a handle away or gives it another partner, whatever the
operations answer. -/
theorem Reachable.keeps (h : registry.Reachable) :
    (∀ operation, registry.Keeps (registry.perform operation).2) ∧
      ∀ operations, registry.Keeps (registry.run operations) := by
  constructor
  · intro operation
    exact keeps_of_grows ((steps_perform registry operation).table.grows h.wellFormed)
  · intro operations
    exact keeps_of_grows ((steps_run registry operations).table.grows h.wellFormed)

theorem default_keeps : ∃ start, Registry.create (.default ⟨8⟩) = .ok start ∧
    (start.run [.intern ['a']]).Reachable ∧
      ((start.run [.intern ['a']]).perform (.resolve ⟨8012⟩)).2.lookup ['a'] = some ⟨8008⟩ ∧
        ((start.run [.intern ['a']]).run [.resolve ⟨8012⟩, .intern ['b']]).lookup ['a'] =
          some ⟨8008⟩ := by
  have hplain : IsPlain ['a'] := by
    constructor <;> decide
  have hreachable := (Reachable.create create_default).run [.intern ['a']]
  have hlookup := (numbers_run_intern create_default hplain).lookup_eq
  refine ⟨_, create_default, hreachable, ?_, ?_⟩
  · exact (Reachable.keeps hreachable).1 _ |>.lookup_eq _ _ hlookup
  · exact (Reachable.keeps hreachable).2 _ |>.lookup_eq _ _ hlookup

end Registry

end Interning
