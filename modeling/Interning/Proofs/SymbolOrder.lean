import Interning.Proofs.AgreeingTables
import Interning.Proofs.ByteOrder
import Interning.Proofs.SetterResolution

/-!
# The order of identifiers

Two identifiers are compared by their names, so both are resolved, and the first resolution may
record a setter before the second is made. It makes no difference to the second
(`Registry.resolve_after_resolve`): the answer is read off what both identifiers resolve to
beforehand (`Registry.compareBy_fst`).

An identifier has one name and a name has one identifier, that of an unrecorded setter included
(`Table.WellFormed.id_eq_of_names`). Therefore equal names are those of equal identifiers, and the
laws of the order of texts become laws of identifiers. `Registry.Ranks` is what every operation
keeps to that compares keys of the names, and `Registry.OrdersNames` adds what tells the two
operations apart: one compares the names themselves, the other the names with their ASCII capitals
replaced. Both are orders of bytes as well as of code points.
-/

set_option autoImplicit false
set_option relaxedAutoImplicit false

namespace Interning

namespace Table

variable {floor : UInt64} {table : Table} {text base : Text} {id otherId : SymbolId}
  {sequence : UInt64}

/-! ### Names and identifiers -/

/-- The setter of a numbered name has the identifier of the number, recorded or not. -/
theorem Names.eq_dynamic (hnames : table.Names floor id (base ++ ['=']))
    (h : table.WellFormed floor) (hnumber : table.Numbers floor base sequence)
    (hscope : classify base = .localName ∨ classify base = .constant) (hne : base ≠ []) :
    id = .dynamic sequence .setter := by
  generalize htext : base ++ ['='] = text at hnames
  cases hnames with
  | recorded hlookup =>
    rw [← htext] at hlookup
    exact h.eq_of_lookup_setter hnumber (classify_append_sign_eq_setter hne hscope) hlookup
  | derivable hid hother _ _ =>
    obtain rfl := List.append_cancel_right htext
    rw [hid, hnumber.sequence_eq h hother]

/-- A name has one identifier. -/
theorem WellFormed.id_eq_of_names (h : table.WellFormed floor)
    (hnames : table.Names floor id text) (hother : table.Names floor otherId text) :
    id = otherId := by
  cases hnames with
  | derivable hid hnumber hscope hne => rw [hid, hother.eq_dynamic h hnumber hscope hne]
  | recorded hlookup =>
    cases hother with
    | recorded hlookup' => exact Option.some.inj (hlookup.symm.trans hlookup')
    | derivable hid hnumber hscope hne =>
      rw [hid, (Names.recorded hlookup).eq_dynamic h hnumber hscope hne]

end Table

namespace Registry

/-- An operation orders identifiers by their names: it answers where both have one, the answers are
those of a preorder, and nothing that is done with the registry changes them. -/
structure Ranks (registry : Registry)
    (operation : Registry → SymbolId → SymbolId → Except Fault (Option Ordering) × Registry)
    (order : Text → Text → Ordering) : Prop where
  eq_some_iff : ∀ a b answer, (operation registry a b).1 = .ok (some answer) ↔
    ∃ first second, (registry.resolve a).1 = .ok first ∧ (registry.resolve b).1 = .ok second ∧
      answer = order first second
  /-- There is no answer if the first identifier has no name, or the second. -/
  eq_none_iff : ∀ a b, (operation registry a b).1 = .ok none ↔
    (∃ unknown, (registry.resolve a).1 = .error (.notFound unknown)) ∨
      ∃ first unknown, (registry.resolve a).1 = .ok first ∧
        (registry.resolve b).1 = .error (.notFound unknown)
  swap : ∀ a b answer, (operation registry a b).1 = .ok (some answer) →
    (operation registry b a).1 = .ok (some answer.swap)
  /-- Of two steps that do not fall, the first that rises decides. -/
  trans : ∀ a b c answer next, (operation registry a b).1 = .ok (some answer) →
    (operation registry b c).1 = .ok (some next) → answer.isLE → next.isLE →
      (operation registry a c).1 = .ok (some (answer.then next))
  lasting : ∀ a b answer, (operation registry a b).1 = .ok (some answer) →
    ∀ operations, (operation (registry.run operations) a b).1 = .ok (some answer)

/-- Identifiers are ordered by the code points of their names, and only equal ones are tied. Without
regard to case, those are tied whose names differ in the case of ASCII letters alone. -/
structure OrdersNames (registry : Registry) : Prop where
  ranks_compare : registry.Ranks Registry.compare fun first second ↦ Ord.compare first second
  compare_eq_iff : ∀ a b first second, (registry.resolve a).1 = .ok first →
    (registry.resolve b).1 = .ok second → ((registry.compare a b).1 = .ok (some .eq) ↔ a = b)
  /-- The order is that of the UTF-8 bytes of the names. -/
  compare_bytes : ∀ a b first second, (registry.resolve a).1 = .ok first →
    (registry.resolve b).1 = .ok second → (registry.compare a b).1 =
      .ok (some (Ord.compare first.bytes second.bytes))
  ranks_caseCompare : registry.Ranks Registry.caseCompare fun first second ↦
    Ord.compare (first.map Char.toLower) (second.map Char.toLower)
  caseCompare_eq_iff : ∀ a b first second, (registry.resolve a).1 = .ok first →
    (registry.resolve b).1 = .ok second → ((registry.caseCompare a b).1 = .ok (some .eq) ↔
      first.map Char.toLower = second.map Char.toLower)
  /-- This order is that of the bytes, with those of ASCII capitals replaced. -/
  caseCompare_bytes : ∀ a b first second, (registry.resolve a).1 = .ok first →
    (registry.resolve b).1 = .ok second → (registry.caseCompare a b).1 =
      .ok (some (Ord.compare (first.bytes.map Text.lowerByte) (second.bytes.map Text.lowerByte)))

variable {floor : UInt64} {registry : Registry} {key : Text → Text} {first second : Text}
  {a b : SymbolId}

/-! ### Two resolutions in turn -/

/-- The resolution of an identifier that has a name changes no other's outcome. -/
theorem resolve_after_resolve (h : registry.table.WellFormed floor)
    (hfirst : (registry.resolve a).1 = .ok first) (b : SymbolId) :
    ((registry.resolve a).2.resolve b).1 = (registry.resolve b).1 := by
  have hnames := (resolve_eq_ok_iff h).mp hfirst
  cases h.record_cases a with
  | named _ hafter =>
    have hrecord := (hafter.record h (wellFormed_afterRecord h a) b).1
    rw [resolve_eq registry a, resolve_eq, resolve_eq]
    exact congrArg (·.map Record.text) hrecord
  | unnamed hunnamed => exact absurd hnames (hunnamed first)
  | empty hunnamed => exact absurd hnames (hunnamed first)

/-- A comparison is decided by what both identifiers resolve to beforehand. -/
theorem compareBy_fst (h : registry.table.WellFormed floor) (key : Text → Text)
    (a b : SymbolId) :
    (compareBy key registry a b).1 =
      match (registry.resolve a).1, (registry.resolve b).1 with
      | .ok first, .ok second => .ok (some (Ord.compare (key first) (key second)))
      | .error (.exhausted last), _ | .ok _, .error (.exhausted last) =>
        .error (.exhausted last)
      | .error (.notFound _), _ | .ok _, .error (.notFound _) => .ok none := by
  have hkept (first : Text) (hfirst : (registry.resolve a).1 = .ok first) :=
    resolve_after_resolve h hfirst b
  unfold compareBy text?
  generalize registry.resolve a = outcome at hkept ⊢
  obtain ⟨first | first, middle⟩ := outcome
  · cases first <;> rfl
  · rw [← hkept first rfl]
    dsimp only
    obtain ⟨second | second, last⟩ := middle.resolve b
    · cases second <;> rfl
    · rfl

theorem compareBy_eq_some_iff (h : registry.table.WellFormed floor) {answer : Ordering} :
    (compareBy key registry a b).1 = .ok (some answer) ↔
      ∃ first second, (registry.resolve a).1 = .ok first ∧ (registry.resolve b).1 = .ok second ∧
        answer = Ord.compare (key first) (key second) := by
  rw [compareBy_fst h]
  generalize (registry.resolve a).1 = first
  generalize (registry.resolve b).1 = second
  rcases first with (_ | _) | _ <;> rcases second with (_ | _) | _ <;> simp [eq_comm]

theorem compareBy_eq_none_iff (h : registry.table.WellFormed floor) :
    (compareBy key registry a b).1 = .ok none ↔
      (∃ unknown, (registry.resolve a).1 = .error (.notFound unknown)) ∨
        ∃ first unknown, (registry.resolve a).1 = .ok first ∧
          (registry.resolve b).1 = .error (.notFound unknown) := by
  rw [compareBy_fst h]
  generalize (registry.resolve a).1 = first
  generalize (registry.resolve b).1 = second
  rcases first with (_ | _) | _ <;> rcases second with (_ | _) | _ <;> simp

/-- A name is kept, whatever is done with the registry. -/
theorem resolve_run (h : registry.table.WellFormed floor)
    (hfirst : (registry.resolve a).1 = .ok first) (operations : List Operation) :
    ((registry.run operations).resolve a).1 = .ok first := by
  have hgrows := (steps_run registry operations).table.grows h
  have hnames := (resolve_eq_ok_iff h).mp hfirst
  exact (resolve_eq_ok_iff hgrows.wellFormed).mpr (hnames.of_extends hgrows.extends_table)

/-- Identifiers of one name are the same. -/
theorem id_eq_of_resolve (h : registry.table.WellFormed floor)
    (ha : (registry.resolve a).1 = .ok first) (hb : (registry.resolve b).1 = .ok first) :
    a = b :=
  h.id_eq_of_names ((resolve_eq_ok_iff h).mp ha) ((resolve_eq_ok_iff h).mp hb)

/-! ### The laws -/

/-- Of two steps that do not fall, the first that rises decides. -/
theorem compare_eq_then {middle last : Text} (hfirst : (Ord.compare first middle).isLE)
    (hlast : (Ord.compare middle last).isLE) :
    Ord.compare first last = (Ord.compare first middle).then (Ord.compare middle last) := by
  cases hcompare : Ord.compare first middle with
  | lt => exact Std.TransCmp.lt_of_lt_of_isLE hcompare hlast
  | eq =>
    obtain rfl := Std.compare_eq_iff_eq.mp hcompare
    rfl
  | gt => simp [hcompare] at hfirst

theorem ranks_compareBy (h : registry.table.WellFormed floor) (key : Text → Text) :
    registry.Ranks (compareBy key) fun first second ↦ Ord.compare (key first) (key second) := by
  constructor
  case eq_some_iff => exact fun a b answer ↦ compareBy_eq_some_iff h
  case eq_none_iff => exact fun a b ↦ compareBy_eq_none_iff h
  case swap =>
    intro a b answer hanswer
    obtain ⟨first, second, ha, hb, rfl⟩ := (compareBy_eq_some_iff h).mp hanswer
    exact (compareBy_eq_some_iff h).mpr ⟨second, first, hb, ha, Std.OrientedOrd.eq_swap.symm⟩
  case trans =>
    intro a b c answer next hanswer hnext hle hle'
    obtain ⟨first, second, ha, hb, rfl⟩ := (compareBy_eq_some_iff h).mp hanswer
    obtain ⟨middle, third, hmiddle, hc, rfl⟩ := (compareBy_eq_some_iff h).mp hnext
    obtain rfl := Except.ok.inj (hmiddle.symm.trans hb)
    exact (compareBy_eq_some_iff h).mpr ⟨first, third, ha, hc, (compare_eq_then hle hle').symm⟩
  case lasting =>
    intro a b answer hanswer operations
    have hgrows := (steps_run registry operations).table.grows h
    obtain ⟨first, second, ha, hb, rfl⟩ := (compareBy_eq_some_iff h).mp hanswer
    exact (compareBy_eq_some_iff hgrows.wellFormed).mpr
      ⟨first, second, resolve_run h ha operations, resolve_run h hb operations, rfl⟩

/-- Identifiers are ordered by their names, in every registry that operations lead to. -/
theorem Reachable.ordersNames (h : registry.Reachable) : registry.OrdersNames := by
  have hinvariant := h.wellFormed
  have hcompare (key : Text → Text) {a b : SymbolId} {first second : Text}
      (ha : (registry.resolve a).1 = .ok first) (hb : (registry.resolve b).1 = .ok second) :
      (compareBy key registry a b).1 = .ok (some (Ord.compare (key first) (key second))) :=
    (compareBy_eq_some_iff hinvariant).mpr ⟨first, second, ha, hb, rfl⟩
  constructor
  case ranks_compare => exact ranks_compareBy hinvariant id
  case ranks_caseCompare => exact ranks_compareBy hinvariant (·.map Char.toLower)
  case compare_eq_iff =>
    intro a b first second ha hb
    rw [Registry.compare, hcompare id ha hb]
    constructor
    · intro heq
      obtain rfl : first = second := Std.compare_eq_iff_eq.mp (Option.some.inj (Except.ok.inj heq))
      exact id_eq_of_resolve hinvariant ha hb
    · rintro rfl
      obtain rfl := Except.ok.inj (ha.symm.trans hb)
      rw [Std.compare_self]
  case compare_bytes =>
    intro a b first second ha hb
    rw [Text.compare_bytes]
    exact hcompare id ha hb
  case caseCompare_eq_iff =>
    intro a b first second ha hb
    rw [Registry.caseCompare, hcompare _ ha hb, Except.ok.injEq, Option.some.injEq,
      Std.compare_eq_iff_eq]
  case caseCompare_bytes =>
    intro a b first second ha hb
    rw [Text.map_lowerByte_bytes, Text.map_lowerByte_bytes, Text.compare_bytes]
    exact hcompare _ ha hb

/-- A setter that has not been recorded comes behind the recorded setter of a capital, and is the
same without regard to case. -/
theorem default_compare_setters : ∃ start, Registry.create (.default ⟨8⟩) = .ok start ∧
    (start.run [.intern ['z'], .intern "Z=".toList]).Reachable ∧
      (start.run [.intern ['z'], .intern "Z=".toList]).contains ⟨8012⟩ = false ∧
        ((start.run [.intern ['z'], .intern "Z=".toList]).compare ⟨8012⟩ ⟨8020⟩).1 =
            .ok (some .gt) ∧
          ((start.run [.intern ['z'], .intern "Z=".toList]).compare ⟨8020⟩ ⟨8012⟩).1 =
              .ok (some .lt) ∧
            ((start.run [.intern ['z'], .intern "Z=".toList]).caseCompare ⟨8012⟩ ⟨8020⟩).1 =
              .ok (some .eq) := by
  have hreachable := (Reachable.create create_default).run [.intern ['z'], .intern "Z=".toList]
  have hsmall : (((bootstrap (.default ⟨8⟩)).run [.intern ['z'], .intern "Z=".toList]).resolve
      ⟨8012⟩).1 = .ok "z=".toList := by
    decide +kernel
  have hcapital : (((bootstrap (.default ⟨8⟩)).run [.intern ['z'], .intern "Z=".toList]).resolve
      ⟨8020⟩).1 = .ok "Z=".toList := by
    decide +kernel
  have horders := Reachable.ordersNames hreachable
  have hgreater := (horders.compare_bytes _ _ _ _ hsmall hcapital).trans
    (by decide +kernel : _ = .ok (some .gt))
  exact ⟨_, create_default, hreachable, by decide +kernel, hgreater,
    horders.ranks_compare.swap _ _ _ hgreater,
    (horders.caseCompare_eq_iff _ _ _ _ hsmall hcapital).mpr (by decide)⟩

end Registry

end Interning
