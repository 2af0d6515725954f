import Interning.Proofs.InterningOutcome
import Interning.Workers

/-!
# Workers that nobody interrupts

Workers that intern names side by side take turns, and a schedule says in which order. Where nobody
comes in between this is interning: the steps of a task, taken one after the other, come to the same
answer and the same table (`Task.finish_start`).

A single worker is never interrupted and has nobody to steal from, so it interns the names in their
order under whatever schedule (`Registry.internTogether_one`). The invariant is `Pool.Alone`: what
the worker has left to do comes to the outcome that it had at the start.
-/

set_option autoImplicit false
set_option relaxedAutoImplicit false

namespace Interning

/-! ### Tasks that nobody interrupts -/

/-- What is left to do after a step, when nobody else takes one. -/
def Progress.finish (table : Table) : Progress → Except Fault (SymbolId × Table)
  | .task next => next.finish table
  | .answered id => .ok (id, table)

namespace Task

variable {table after : Table} {text : Text} {id : SymbolId} {setters : List Text}

theorem finish_eq (table : Table) (task : Task) :
    task.finish table =
      match task.advance table with
      | .ok (progress, after) => progress.finish after
      | .error fault => .error fault := by
  rw [finish]
  split <;> simp_all [Progress.finish]

/-- The rest of a task, once a text has its identifier or has been refused one. -/
def proceed (setters : List Text) (outcome : Except Fault SymbolId × Table) :
    Except Fault (SymbolId × Table) :=
  match outcome with
  | (.ok id, after) => (resume id setters).finish after
  | (.error fault, _) => .error fault

theorem finish_publish (table : Table) (text : Text) (id : SymbolId) (setters : List Text) :
    finish table ⟨.publish text id, setters⟩ =
      proceed setters (.ok (table.publish text id).1, (table.publish text id).2) := by
  rw [finish_eq]
  rfl

theorem finish_allocate (table : Table) (text : Text) (scope : Scope) (setters : List Text) :
    finish table ⟨.allocate text scope, setters⟩ =
      proceed setters (match table.fresh scope with
        | (.ok id, after) => (.ok (after.publish text id).1, (after.publish text id).2)
        | failed => failed) := by
  rw [finish_eq]
  simp only [advance]
  cases table.fresh scope with
  | mk outcome after =>
    cases outcome with
    | error fault => rfl
    | ok id => exact finish_publish after text id setters

/-- A search that nobody interrupts is the interning of its text. -/
theorem finish_search (table : Table) (text : Text) (setters : List Text) :
    finish table ⟨.search text, setters⟩ = proceed setters (table.intern text) := by
  rw [finish_eq]
  simp only [advance]
  cases hlookup : table.lookup text with
  | some id =>
    rw [Table.intern_of_lookup_eq_some hlookup]
    rfl
  | none =>
    rw [Table.intern_of_lookup_eq_none hlookup]
    change finish table.countMiss (afterMiss text setters) = _
    unfold afterMiss Table.allocate
    cases hscope : classify text with
    | setter =>
      simp only
      rw [finish_search table.countMiss text.dropLast (text :: setters)]
      cases table.countMiss.intern text.dropLast with
      | mk outcome after =>
        cases outcome with
        | error fault => rfl
        | ok base =>
          simp only [proceed, resume]
          cases base.withScope .setter with
          | some own => exact finish_publish after text own setters
          | none => exact finish_allocate after text .junk setters
    | operator =>
      simp only
      cases Token.find? text with
      | some token => exact finish_publish table.countMiss text token.id setters
      | none => exact finish_allocate table.countMiss text .junk setters
    | _ => exact finish_allocate table.countMiss text _ setters
termination_by text.length
decreasing_by
  have hpos := List.length_pos_iff.mpr (ne_nil_of_classify_eq_setter hscope)
  rw [List.length_dropLast]
  omega

/-- A task that nobody interrupts is the interning of its text. -/
theorem finish_start (table : Table) (text : Text) :
    (start text).finish table =
      match table.intern text with
      | (.ok id, after) => .ok (id, after)
      | (.error fault, _) => .error fault := by
  rw [start, finish_search]
  rfl

end Task

/-! ### One worker -/

variable {registry : Registry} {ids : List SymbolId} {names : List Text}

/-- A name that is interned first stands first. -/
theorem Registry.internOnto_cons (registry : Registry) (ids : List SymbolId) (name : Text)
    (names : List Text) :
    registry.internOnto ids (name :: names) =
      Worker.finish registry ids ⟨some (.start name), names⟩ := by
  unfold Worker.finish internOnto
  simp only [Task.finish_start, internAll, intern, onTable]
  cases registry.table.intern name with
  | mk outcome after =>
    cases outcome with
    | error fault => rfl
    | ok id =>
      simp only
      cases Registry.internAll { registry with table := after } names with
      | mk more last => cases more <;> simp

theorem Worker.finishAll_singleton (registry : Registry) (ids : List SymbolId) (worker : Worker) :
    finishAll registry ids [worker] = worker.finish registry ids := by
  rw [finishAll]
  cases worker.finish registry ids <;> rfl

namespace Pool

variable {pool : Pool} {outcome : Except Fault (List SymbolId × Registry)}

/-- Where there is one job, nobody has nothing to do and steals. -/
theorem steal_one (pool : Pool) (place names : Nat) : pool.steal 1 place names = pool := by
  unfold steal
  cases hplace : pool.workers[place]? with
  | none => rfl
  | some worker =>
    have hlength := (List.getElem?_eq_some_iff.mp hplace).1
    exact if_neg (by omega)

/-- A pool in which at most one worker is left comes to an outcome. -/
structure Alone (pool : Pool) (outcome : Except Fault (List SymbolId × Registry)) : Prop where
  length_le : pool.workers.length ≤ 1
  finish_eq : pool.finish = outcome

/-- Whatever turn is given, a worker that is alone goes on with what it has to do. -/
theorem Alone.turn (h : pool.Alone outcome) (turn : Turn) :
    match pool.turn 1 turn with
    | .ok next => next.Alone outcome
    | .error fault => outcome = .error fault := by
  cases turn with
  | steal place names =>
    simp only [Pool.turn, steal_one]
    exact h
  | work place =>
    obtain ⟨registry, workers, ids⟩ := pool
    obtain ⟨hlength, rfl⟩ := h
    simp only [Pool.turn, work]
    cases hplace : workers[place]? with
    | none => exact ⟨hlength, rfl⟩
    | some worker =>
      -- The worker is the only one, so that its rest is the rest of the pool.
      have hlt : place < workers.length := (List.getElem?_eq_some_iff.mp hplace).1
      obtain ⟨other, rfl⟩ : ∃ other, workers = [other] :=
        List.length_eq_one_iff.mp (Nat.le_antisymm hlength (Nat.one_le_of_lt hlt))
      obtain rfl : place = 0 := by simpa using hlt
      obtain rfl : other = worker := by simpa using hplace
      have halone (next : Worker) (registry : Registry) (ids : List SymbolId) :
          finish ⟨registry, [next], ids⟩ = next.finish registry ids :=
        Worker.finishAll_singleton registry ids next
      obtain ⟨task, names⟩ := other
      rw [halone]
      cases task with
      | none =>
        cases names with
        | nil =>
          refine ⟨by simp, ?_⟩
          simp [finish, Worker.finishAll, Worker.finish, Registry.internOnto, Registry.internAll]
        | cons name names =>
          refine ⟨by simp, ?_⟩
          exact (halone _ registry ids).trans (Registry.internOnto_cons registry ids name names).symm
      | some task =>
        rw [Worker.finish]
        dsimp only
        rw [Task.finish_eq]
        cases task.advance registry.table with
        | error fault => rfl
        | ok step =>
          obtain ⟨progress, after⟩ := step
          cases progress with
          | task next => exact ⟨by simp, halone _ _ ids⟩
          | answered id => exact ⟨by simp, halone _ _ _⟩

theorem Alone.run (h : pool.Alone outcome) (schedule : List Turn) :
    match pool.run 1 schedule with
    | .ok last => last.Alone outcome
    | .error fault => outcome = .error fault := by
  induction schedule generalizing pool with
  | nil => exact h
  | cons turn turns ih =>
    have hturn := h.turn turn
    rw [Pool.run]
    cases hnext : pool.turn 1 turn with
    | error fault =>
      rw [hnext] at hturn
      exact hturn
    | ok next =>
      rw [hnext] at hturn
      exact ih hturn

end Pool

/-- One worker interns the names in their order, under whatever schedule. -/
theorem Registry.internTogether_one (registry : Registry) (schedule : List Turn)
    (names : List Text) :
    registry.internTogether 1 schedule names = registry.internOnto [] names := by
  have halone : (Pool.start registry names).Alone (registry.internOnto [] names) :=
    ⟨Nat.le_refl 1, Worker.finishAll_singleton registry [] ⟨none, names⟩⟩
  have hrun := halone.run schedule
  rw [internTogether]
  cases hlast : (Pool.start registry names).run 1 schedule with
  | error fault =>
    rw [hlast] at hrun
    exact hrun.symm
  | ok last =>
    rw [hlast] at hrun
    exact hrun.finish_eq

end Interning
