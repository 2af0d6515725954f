import Interning.Proofs.Schedules
import Mathlib.Algebra.Ring.Nat
import Mathlib.Data.List.Perm.Basic

/-!
# Numbers for every schedule

With several workers the table at the end depends on the schedule. Two of them may both miss the
same new text; the one that publishes it last finds it taken, and the sequence number that it has
drawn goes to waste. What no schedule changes is that a name takes one number at most, so that no
worker fails where there is a number for each name that is no operator
(`Registry.exists_internTogether`).

The invariant is `Pool.Fits`. It says that the numbers that the workers may still draw are there, and
that their tasks are sound (`Task.Sound`): a setter waits for the identifier of a name that is no
operator, and since such a name never has a reserved identifier (`Table.Separates`), the setter finds
a sequence number to share and needs none of its own. A step of a task leaves the numbers that may
still be drawn (`Task.Takes`), and so does every turn (`Pool.Fits.exists_turn`).
-/

set_option autoImplicit false
set_option relaxedAutoImplicit false

namespace Interning

variable {registry : Registry} {names : List Text}

/-! ### Tables -/

namespace Table

variable {table after : Table} {text : Text} {id : SymbolId}

/-- A table keeps its dynamic identifiers out of the operators' range: the names that are no
operators have none of the reserved ones, and the sequence has left them behind. -/
structure Separates (table : Table) : Prop where
  low : 125 ≤ table.lastSequence
  isOperator_eq : ∀ text id, table.lookup text = some id → classify text ≠ .operator →
    id.isOperator = false

theorem WellFormed.separates {floor : UInt64} (h : table.WellFormed floor) : table.Separates where
  low := UInt64.le_trans (by decide) (UInt64.le_trans h.reserved_le h.floor_le)
  isOperator_eq text id hlookup htext :=
    SymbolId.isOperator_eq_false_of_scope ((h.scope_eq hlookup).symm ▸ htext)

theorem Separates.of_sameNames (h : table.Separates) (hsame : table.SameNames after) :
    after.Separates where
  low := hsame.lastSequence_eq.symm ▸ h.low
  isOperator_eq text id hlookup :=
    h.isOperator_eq text id ((hsame.lookup_eq text).symm.trans hlookup)

theorem Separates.startSequence (h : table.Separates) {last : UInt64} (hlow : 125 ≤ last) :
    (table.startSequence last).Separates :=
  ⟨hlow, h.isOperator_eq⟩

theorem Separates.insert (h : table.Separates)
    (hid : classify text ≠ .operator → id.isOperator = false) :
    (table.insert text id).Separates where
  low := h.low
  isOperator_eq other otherId hlookup hother := by
    rw [lookup_insert] at hlookup
    split at hlookup
    · next heq =>
      subst heq
      exact Option.some.inj hlookup ▸ hid hother
    · exact h.isOperator_eq other otherId hlookup hother

/-- The text that is published keeps to its side, whichever identifier it has afterwards. -/
theorem Separates.publish (h : table.Separates)
    (hid : classify text ≠ .operator → id.isOperator = false) :
    (table.publish text id).2.Separates ∧
      (classify text ≠ .operator → (table.publish text id).1.isOperator = false) := by
  cases hlookup : table.lookup text with
  | none =>
    rw [publish_of_lookup_eq_none hlookup]
    exact ⟨h.insert hid, hid⟩
  | some taken =>
    simp only [Table.publish, hlookup]
    exact ⟨h.of_sameNames (sameNames_count table _), h.isOperator_eq text taken hlookup⟩

theorem lastSequence_publish (table : Table) (text : Text) (id : SymbolId) :
    (table.publish text id).2.lastSequence = table.lastSequence := by
  unfold publish
  split
  · exact (sameNames_count table _).lastSequence_eq
  · rfl

end Table

/-! ### Tasks -/

namespace Step

/-- The text that a step is about. -/
def text : Step → Text
  | .search text | .allocate text _ | .publish text _ => text

/-- The sequence numbers that may be drawn from a step on until its text is published. -/
def numbers : Step → Nat
  | .search text => if classify text = .operator then 0 else 1
  | .allocate _ _ => 1
  | .publish _ _ => 0

end Step

/-- What a task relies on: those that wait are setters, what they wait for is no operator, and a
text that is no operator is not published under a reserved identifier. -/
structure Task.Sound (task : Task) : Prop where
  setter : ∀ text ∈ task.setters, classify text = .setter
  waits : task.setters ≠ [] → classify task.step.text ≠ .operator
  publishes : ∀ text id, task.step = .publish text id → classify text ≠ .operator →
    id.isOperator = false

/-- Whether what follows from a step is a sound task, if anything follows. -/
def Progress.Sound : Progress → Prop
  | .task next => next.Sound
  | .answered _ => True

/-- The sequence numbers that may still be drawn. -/
def Progress.numbers : Progress → Nat
  | .task next => next.step.numbers
  | .answered _ => 0

namespace Task

variable {table after : Table} {task : Task} {text : Text} {id : SymbolId} {setters : List Text}

/-- A setter shares the sequence number of what it has waited for. -/
theorem sound_resume (hsetters : ∀ text ∈ setters, classify text = .setter)
    (hid : setters ≠ [] → id.isOperator = false) :
    (resume id setters).Sound ∧ (resume id setters).numbers = 0 := by
  cases setters with
  | nil => exact ⟨trivial, rfl⟩
  | cons setter setters =>
    obtain ⟨hsetter, hrest⟩ := List.forall_mem_cons.mp hsetters
    have hdynamic := hid (List.cons_ne_nil setter setters)
    have hown : (SymbolId.dynamic (id.raw / SymbolId.tagCount) .setter).isOperator = false :=
      SymbolId.isOperator_dynamic (SymbolId.le_sequence_of_not_isOperator hdynamic)
        (SymbolId.sequence_le_maxSequence id) .setter
    rw [resume, SymbolId.withScope_eq_dynamic hdynamic (by simp)]
    refine ⟨⟨hrest, fun _ ↦ ?_, ?_⟩, rfl⟩
    · simp [Step.text, hsetter]
    · rintro text id ⟨⟩ -
      exact hown

/-- A text that has not been found needs a sequence number of its own unless it is an operator; the
number of a setter is drawn for what stands before its sign. -/
theorem sound_afterMiss (hsetters : ∀ text ∈ setters, classify text = .setter)
    (hwaits : setters ≠ [] → classify text ≠ .operator) :
    (afterMiss text setters).Sound ∧
      (afterMiss text setters).step.numbers ≤ (Step.search text).numbers := by
  unfold afterMiss
  cases hscope : classify text with
  | setter =>
    obtain ⟨base, rfl, -, -⟩ := exists_base_of_classify_eq_setter hscope
    have hplain := Table.isPlain_of_classify_eq_setter hscope
    rw [List.dropLast_concat]
    refine ⟨⟨List.forall_mem_cons.mpr ⟨hscope, hsetters⟩, fun _ ↦ hplain.1, by simp⟩, ?_⟩
    simp [Step.numbers, hplain.1, hscope]
  | operator =>
    have hfind := find?_isSome_iff.mpr (classify_eq_operator_iff.mp hscope)
    obtain ⟨token, htoken⟩ := Option.isSome_iff_exists.mp hfind
    rw [htoken]
    refine ⟨⟨hsetters, hwaits, ?_⟩, Nat.zero_le _⟩
    rintro other id ⟨⟩ hother
    exact absurd hscope hother
  | _ =>
    refine ⟨⟨hsetters, hwaits, by simp⟩, ?_⟩
    simp [Step.numbers, hscope]

/-- A task takes a step: what follows from it is sound, and it leaves the numbers that may still be
drawn. -/
structure Takes (table : Table) (task : Task) (progress : Progress) (after : Table) : Prop where
  advance_eq : task.advance table = .ok (progress, after)
  separates : after.Separates
  sound : progress.Sound
  numbers_le : after.lastSequence.toNat + progress.numbers ≤
    table.lastSequence.toNat + task.step.numbers

/-- A sound task takes its next step wherever there is a number for it. -/
theorem Sound.exists_takes (h : task.Sound) (htable : table.Separates)
    (hroom : table.lastSequence.toNat + task.step.numbers ≤ SymbolId.maxSequence.toNat) :
    ∃ progress after, task.Takes table progress after := by
  obtain ⟨step, setters⟩ := task
  obtain ⟨hsetters, hwaits, hpublishes⟩ := h
  cases step with
  | search text =>
    cases hlookup : table.lookup text with
    | some id =>
      obtain ⟨hsound, hnumbers⟩ := sound_resume hsetters
        fun hne ↦ htable.isOperator_eq text id hlookup (hwaits hne)
      refine ⟨resume id setters, table.countHit, by simp [advance, hlookup],
        htable.of_sameNames (Table.sameNames_countHit table), hsound, ?_⟩
      rw [hnumbers, Table.lastSequence_countHit]
      exact Nat.le_add_right _ _
    | none =>
      obtain ⟨hsound, hnumbers⟩ := sound_afterMiss hsetters hwaits
      refine ⟨.task (afterMiss text setters), table.countMiss, by simp [advance, hlookup],
        htable.of_sameNames (Table.sameNames_countMiss table), hsound, ?_⟩
      rw [Table.lastSequence_countMiss]
      exact Nat.add_le_add_left hnumbers _
  | allocate text scope =>
    have hlast : table.lastSequence < SymbolId.maxSequence :=
      UInt64.lt_iff_toNat_lt.mpr hroom
    have hlow := UInt64.le_trans htable.low (UInt64.le_of_lt (SymbolId.lt_succ hlast))
    refine ⟨.task ⟨.publish text (.dynamic (table.lastSequence + 1) scope), setters⟩,
      table.startSequence (table.lastSequence + 1), ?_, htable.startSequence hlow,
      ⟨hsetters, hwaits, ?_⟩, ?_⟩
    · simp only [advance, Table.fresh_of_lt hlast]
      rfl
    · rintro other id ⟨⟩ -
      exact SymbolId.isOperator_dynamic hlow (SymbolId.succ_le_maxSequence hlast) scope
    · exact Nat.le_of_eq (SymbolId.toNat_succ hlast)
  | publish text id =>
    obtain ⟨hafter, hdynamic⟩ := htable.publish (hpublishes text id rfl)
    obtain ⟨hsound, hnumbers⟩ := sound_resume hsetters fun hne ↦ hdynamic (hwaits hne)
    refine ⟨resume (table.publish text id).1 setters, (table.publish text id).2, rfl, hafter,
      hsound, ?_⟩
    rw [hnumbers, Table.lastSequence_publish]
    exact Nat.le_refl _

/-- A sound task comes to an identifier, by as many steps as it has left to take. -/
theorem Sound.exists_finish (h : task.Sound) (htable : table.Separates)
    (hroom : table.lastSequence.toNat + task.step.numbers ≤ SymbolId.maxSequence.toNat) :
    ∃ id after, task.finish table = .ok (id, after) ∧ after.Separates ∧
      after.lastSequence.toNat ≤ table.lastSequence.toNat + task.step.numbers := by
  induction hsize : task.size using Nat.strongRecOn generalizing table task with
  | ind size ih =>
    obtain ⟨progress, next, htakes⟩ := h.exists_takes htable hroom
    have hnumbers := htakes.numbers_le
    rw [finish_eq, htakes.advance_eq]
    cases progress with
    | answered id => exact ⟨id, next, rfl, htakes.separates, hnumbers⟩
    | task rest =>
      have hless : rest.size < size := hsize ▸ size_lt_of_advance htakes.advance_eq
      obtain ⟨id, after, hfinish, hafter, hle⟩ := ih rest.size hless htakes.sound
        htakes.separates (Nat.le_trans hnumbers hroom) rfl
      exact ⟨id, after, hfinish, hafter, Nat.le_trans hle hnumbers⟩

end Task

/-! ### Workers -/

/-- An outcome leaves a registry behind that has drawn so many sequence numbers at most. -/
def Registry.Draws (registry : Registry) (numbers : Nat)
    (outcome : Except Fault (List SymbolId × Registry)) : Prop :=
  ∃ ids after, outcome = .ok (ids, after) ∧ after.table.Separates ∧
    after.table.lastSequence.toNat ≤ registry.table.lastSequence.toNat + numbers

namespace Worker

/-- The sequence numbers that a worker may still draw. -/
def numbers (worker : Worker) : Nat :=
  worker.task.elim 0 (·.step.numbers) + worker.names.countP (classify · ≠ .operator)

/-- Whether the task that a worker is at is sound, if it is at one. -/
def Sound (worker : Worker) : Prop :=
  ∀ task ∈ worker.task, task.Sound

theorem sound_of_task_eq_none (names : List Text) : Sound ⟨none, names⟩ := by
  simp [Sound]

/-- To begin a name takes no number. -/
theorem numbers_start (name : Text) (names : List Text) :
    numbers ⟨some (.start name), names⟩ = numbers ⟨none, name :: names⟩ := by
  by_cases hscope : classify name = .operator <;>
    simp [numbers, Task.start, Step.numbers, hscope, Nat.add_comm]

theorem sound_start (name : Text) (names : List Text) :
    Sound ⟨some (.start name), names⟩ := by
  rintro task ⟨⟩
  exact ⟨by simp [Task.start], by simp [Task.start], by simp [Task.start]⟩

/-- A worker comes to the end of its task, and from there to the end of its names. -/
theorem draws_finish_of_task {task : Task}
    (hnames : ∀ (registry : Registry) (ids : List SymbolId), registry.table.Separates →
      registry.table.lastSequence.toNat + numbers ⟨none, names⟩ ≤ SymbolId.maxSequence.toNat →
        registry.Draws (numbers ⟨none, names⟩) (registry.internOnto ids names))
    (hsound : task.Sound) (h : registry.table.Separates)
    (hroom : registry.table.lastSequence.toNat + numbers ⟨some task, names⟩ ≤
      SymbolId.maxSequence.toNat) (ids : List SymbolId) :
    registry.Draws (numbers ⟨some task, names⟩) (finish registry ids ⟨some task, names⟩) := by
  simp only [numbers, Option.elim_some, Option.elim_none] at hroom hnames ⊢
  obtain ⟨id, table, hfinish, htable, hle⟩ := hsound.exists_finish h (by omega)
  obtain ⟨all, after, hrest, hafter, hle'⟩ :=
    hnames { registry with table := table } (ids ++ [id]) htable (by simp only; omega)
  refine ⟨all, after, ?_, hafter, by simp only at hle'; omega⟩
  simp only [finish, hfinish]
  exact hrest

/-- A worker that is at no task interns the rest of its names. -/
theorem draws_internOnto (h : registry.table.Separates)
    (hroom : registry.table.lastSequence.toNat + numbers ⟨none, names⟩ ≤
      SymbolId.maxSequence.toNat) (ids : List SymbolId) :
    registry.Draws (numbers ⟨none, names⟩) (registry.internOnto ids names) := by
  induction names generalizing registry ids with
  | nil => exact ⟨ids ++ [], registry, rfl, h, Nat.le_add_right _ _⟩
  | cons name names ih =>
    rw [← numbers_start] at hroom ⊢
    rw [Registry.internOnto_cons]
    exact draws_finish_of_task (fun _ ids htable hroom ↦ ih htable hroom ids)
      (sound_start name names _ rfl) h hroom ids

/-- A worker finishes wherever there are the numbers that it may still draw. -/
theorem Sound.draws_finish {worker : Worker} (hsound : worker.Sound)
    (h : registry.table.Separates)
    (hroom : registry.table.lastSequence.toNat + worker.numbers ≤ SymbolId.maxSequence.toNat)
    (ids : List SymbolId) : registry.Draws worker.numbers (worker.finish registry ids) := by
  obtain ⟨task, names⟩ := worker
  cases task with
  | none => exact draws_internOnto h hroom ids
  | some task =>
    exact draws_finish_of_task (fun _ ids htable hroom ↦ draws_internOnto htable hroom ids)
      (hsound task rfl) h hroom ids

theorem draws_finishAll {workers : List Worker} (hsound : ∀ worker ∈ workers, worker.Sound)
    (h : registry.table.Separates)
    (hroom : registry.table.lastSequence.toNat + (workers.map numbers).sum ≤
      SymbolId.maxSequence.toNat) (ids : List SymbolId) :
    registry.Draws (workers.map numbers).sum (finishAll registry ids workers) := by
  induction workers generalizing registry ids with
  | nil => exact ⟨ids, registry, rfl, h, Nat.le_add_right _ _⟩
  | cons worker workers ih =>
    obtain ⟨hworker, hworkers⟩ := List.forall_mem_cons.mp hsound
    rw [List.map_cons, List.sum_cons] at hroom ⊢
    obtain ⟨known, next, hfinish, hnext, hle⟩ := hworker.draws_finish h (by omega) ids
    rw [finishAll, hfinish]
    obtain ⟨all, after, hrest, hafter, hle'⟩ := ih hworkers hnext (by omega) known
    exact ⟨all, after, hrest, hafter, by omega⟩

end Worker

/-! ### Pools -/

namespace Pool

variable {pool : Pool} {place : Nat} {worker : Worker}

/-- The invariant of workers that share a registry: their tasks are sound, and the sequence numbers
that they may still draw are there. -/
structure Fits (pool : Pool) : Prop where
  separates : pool.registry.table.Separates
  sound : ∀ worker ∈ pool.workers, worker.Sound
  room : pool.registry.table.lastSequence.toNat + (pool.workers.map Worker.numbers).sum ≤
    SymbolId.maxSequence.toNat

theorem sum_numbers_eq (hplace : pool.workers[place]? = some worker) :
    (pool.workers.map Worker.numbers).sum =
      worker.numbers + ((pool.workers.eraseIdx place).map Worker.numbers).sum := by
  obtain ⟨hlt, rfl⟩ := List.getElem?_eq_some_iff.mp hplace
  have hperm := (List.getElem_cons_eraseIdx_perm hlt).map Worker.numbers
  rw [← hperm.sum_nat, List.map_cons, List.sum_cons]

/-- Others may take the place of a worker if they draw no more than it might have drawn. -/
theorem Fits.replace (h : pool.Fits) (hplace : pool.workers[place]? = some worker) {next : Pool}
    (others : List Worker) (hnext : next.workers.Perm (others ++ pool.workers.eraseIdx place))
    (hseparates : next.registry.table.Separates) (hsound : ∀ other ∈ others, other.Sound)
    (hnumbers : next.registry.table.lastSequence.toNat + (others.map Worker.numbers).sum ≤
      pool.registry.table.lastSequence.toNat + worker.numbers) : next.Fits := by
  have hsum := sum_numbers_eq hplace
  have hsum' := (hnext.map Worker.numbers).sum_nat
  have hroom := h.room
  rw [List.map_append, List.sum_append] at hsum'
  constructor
  case separates => exact hseparates
  case sound =>
    intro other hother
    rcases List.mem_append.mp (hnext.mem_iff.mp hother) with hnew | hold
    · exact hsound other hnew
    · exact h.sound other (List.mem_of_mem_eraseIdx hold)
  case room => omega

theorem Fits.exists_work (h : pool.Fits) (place : Nat) :
    ∃ next, pool.work place = .ok next ∧ next.Fits := by
  cases hplace : pool.workers[place]? with
  | none => exact ⟨pool, by simp [work, hplace], h⟩
  | some worker =>
    have hset := List.set_perm_cons_eraseIdx (List.getElem?_eq_some_iff.mp hplace).1
    have hsound := h.sound worker (List.mem_of_getElem? hplace)
    have hroom := h.room
    rw [sum_numbers_eq hplace] at hroom
    unfold work
    rw [hplace]
    obtain ⟨task, names⟩ := worker
    cases task with
    | none =>
      cases names with
      | nil => exact ⟨_, rfl, h.replace hplace [] (.refl _) h.separates (by simp) (by simp)⟩
      | cons name names =>
        refine ⟨_, rfl, h.replace hplace [_] (hset _) h.separates ?_ ?_⟩
        · exact List.forall_mem_singleton.mpr (Worker.sound_start name names)
        · simp [Worker.numbers_start]
    | some task =>
      simp only [Worker.numbers, Option.elim_some] at hroom
      obtain ⟨progress, after, htakes⟩ := (hsound task rfl).exists_takes h.separates (by omega)
      have hnumbers := htakes.numbers_le
      simp only [htakes.advance_eq]
      cases progress with
      | task next =>
        refine ⟨_, rfl, h.replace hplace [_] (hset _) htakes.separates ?_ ?_⟩
        · refine List.forall_mem_singleton.mpr ?_
          rintro task ⟨⟩
          exact htakes.sound
        · simp only [Progress.numbers] at hnumbers
          simp [Worker.numbers, ← Nat.add_assoc, hnumbers]
      | answered id =>
        refine ⟨_, rfl, h.replace hplace [_] (hset _) htakes.separates ?_ ?_⟩
        · exact List.forall_mem_singleton.mpr (Worker.sound_of_task_eq_none names)
        · simp only [Progress.numbers, Nat.add_zero] at hnumbers
          simp [Worker.numbers, ← Nat.add_assoc, hnumbers]

/-- Who takes over names of another draws the numbers that the other would have drawn. -/
theorem Fits.steal (h : pool.Fits) (jobs place names : Nat) : (pool.steal jobs place names).Fits := by
  unfold Pool.steal
  cases hplace : pool.workers[place]? with
  | none => exact h
  | some victim =>
    simp only
    split
    · next =>
      have hset := List.set_perm_cons_eraseIdx (List.getElem?_eq_some_iff.mp hplace).1
      have hsound := h.sound victim (List.mem_of_getElem? hplace)
      generalize victim.names.length - names = kept
      refine h.replace hplace [⟨victim.task, victim.names.take kept⟩,
        ⟨none, victim.names.drop kept⟩] ?_ h.separates ?_ ?_
      · exact ((hset _).append_right _).trans (.cons _ (List.perm_append_singleton _ _))
      · simpa using ⟨hsound, Worker.sound_of_task_eq_none _⟩
      · have hcount := congrArg (List.countP (classify · ≠ .operator))
          (List.take_append_drop kept victim.names)
        rw [List.countP_append] at hcount
        simp only [List.map_cons, List.map_nil, List.sum_cons, List.sum_nil, Worker.numbers,
          Option.elim_none]
        omega
    · exact h

/-- Every turn keeps the invariant, whoever takes it. -/
theorem Fits.exists_turn (h : pool.Fits) (jobs : Nat) (turn : Turn) :
    ∃ next, pool.turn jobs turn = .ok next ∧ next.Fits := by
  cases turn with
  | work place => exact h.exists_work place
  | steal place names => exact ⟨_, rfl, h.steal jobs place names⟩

theorem Fits.exists_run (h : pool.Fits) (jobs : Nat) (schedule : List Turn) :
    ∃ last, pool.run jobs schedule = .ok last ∧ last.Fits := by
  induction schedule generalizing pool with
  | nil => exact ⟨pool, rfl, h⟩
  | cons turn turns ih =>
    obtain ⟨next, hturn, hnext⟩ := h.exists_turn jobs turn
    rw [run, hturn]
    exact ih hnext

theorem fits_start (h : registry.table.Separates)
    (hroom : registry.table.lastSequence.toNat + names.countP (classify · ≠ .operator) ≤
      SymbolId.maxSequence.toNat) : (start registry names).Fits where
  separates := h
  sound := by simpa [start] using Worker.sound_of_task_eq_none names
  room := by simpa [start, Worker.numbers] using hroom

end Pool

/-- Under every schedule all names get identifiers, if there is a sequence number for each name that
is no operator. -/
theorem Registry.exists_internTogether {config : RegistryConfig} {start : Registry}
    (hstart : Registry.create config = .ok start)
    (hroom : config.sequenceFloor.toNat + names.countP (classify · ≠ .operator) ≤
      SymbolId.maxSequence.toNat) (jobs : Nat) (schedule : List Turn) :
    ∃ ids after, start.internTogether jobs schedule names = .ok (ids, after) := by
  have htable := (Registry.wellFormed_of_create hstart).2
  obtain ⟨-, rfl⟩ := Registry.create_eq_ok_iff.mp hstart
  obtain ⟨pool, hrun, hfits⟩ :=
    (Pool.fits_start htable.separates hroom).exists_run jobs schedule
  obtain ⟨ids, after, hfinish, -⟩ :=
    Worker.draws_finishAll hfits.sound hfits.separates hfits.room pool.ids
  refine ⟨ids, after, ?_⟩
  rw [internTogether, hrun]
  exact hfinish

/-- Both workers search the same new name before either publishes it: both draw a number, and one of
them goes to waste. -/
example : ((Registry.bootstrap (.default ⟨8⟩)).internTogether 2
    [.steal 0 1, .work 0, .work 1, .work 0, .work 1, .work 0, .work 1, .work 0, .work 1]
    ["foo".toList, "foo".toList]).toOption.map (fun (ids, after) ↦
      (ids.map SymbolId.raw, after.table.counters.races, after.table.lastSequence)) =
    some ([8008, 8008], 1, 1002) := by
  decide +kernel

end Interning
