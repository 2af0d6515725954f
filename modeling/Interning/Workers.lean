import Interning.Registry
/-!
Workers that intern names side by side in one registry.

A worker begins its names in order. An interning under way is a `Task`: it looks its text up, takes
a sequence number if it needs one, and publishes the text, and between two of these steps the other
workers may take theirs. Each step is atomic, as the maps and the counter of sequence numbers answer
one request at a time, and the counters of events are read only when all work is done, so that an
event is counted together with the step that it belongs to.

Who takes the next step is not decided here. A `Turn` tells, and a list of them is a schedule: a
worker takes a step, or one that has nothing to do takes over the last names of another.
`Registry.internTogether` lets the workers take the turns of a schedule. Those that have names left
at its end finish one after the other, and under the empty schedule one worker does all the work.
-/

set_option autoImplicit false
set_option relaxedAutoImplicit false

namespace Interning

/-! ### Tasks -/

/-- The next step of an interning: to look a text up, to take a sequence number for it, or to
publish it under an identifier. -/
inductive Step where
  | search (text : Text)
  | allocate (text : Text) (scope : Scope)
  | publish (text : Text) (id : SymbolId)

/-- An interning under way: its next step, and the setters that wait for the identifier of what
stands before their sign, the innermost one first. -/
structure Task where
  step : Step
  setters : List Text

/-- What a step leads to: a further task, or the identifier of the text that was to be interned. -/
inductive Progress where
  | task (task : Task)
  | answered (id : SymbolId)

namespace Task

/-- The interning of a text, before its first step. -/
def start (text : Text) : Task :=
  ⟨.search text, []⟩

/-- What follows when a text has its identifier: the setter that waits for it goes on. -/
def resume (id : SymbolId) : List Text → Progress
  | [] => .answered id
  | setter :: setters =>
    match id.withScope .setter with
    | some own => .task ⟨.publish setter own, setters⟩
    | none => .task ⟨.allocate setter .junk, setters⟩

/-- What follows when a text has not been found. -/
def afterMiss (text : Text) (setters : List Text) : Task :=
  match classify text with
  | .setter => ⟨.search text.dropLast, text :: setters⟩
  | .operator =>
    match Token.find? text with
    | some token => ⟨.publish text token.id, setters⟩
    | none => ⟨.allocate text .junk, setters⟩
  | scope => ⟨.allocate text scope, setters⟩

/-- Takes the next step of a task. -/
def advance (table : Table) (task : Task) : Except Fault (Progress × Table) :=
  match task.step with
  | .search text =>
    match table.lookup text with
    | some id => .ok (resume id task.setters, table.countHit)
    | none => .ok (.task (afterMiss text task.setters), table.countMiss)
  | .allocate text scope =>
    match table.fresh scope with
    | (.ok id, after) => .ok (.task ⟨.publish text id, task.setters⟩, after)
    | (.error fault, _) => .error fault
  | .publish text id =>
    let (published, after) := table.publish text id
    .ok (resume published task.setters, after)

/-- The steps that an interning takes at most, whatever the others do meanwhile. -/
def size (task : Task) : Nat :=
  let ahead := match task.step with
    | .search text => 4 * text.length + 3
    | .allocate _ _ => 2
    | .publish _ _ => 1
  ahead + 3 * task.setters.length

theorem size_lt_of_resume {id : SymbolId} {setters : List Text} {next : Task}
    (h : resume id setters = .task next) : next.size < 3 * setters.length := by
  cases setters with
  | nil => simp [resume] at h
  | cons setter setters =>
    simp only [resume] at h
    split at h <;> cases h <;> simp only [size, List.length_cons] <;> omega

theorem size_afterMiss_lt (text : Text) (setters : List Text) :
    (afterMiss text setters).size < size ⟨.search text, setters⟩ := by
  unfold afterMiss
  split
  · next hsetter =>
    have hpos := List.length_pos_iff.mpr (ne_nil_of_classify_eq_setter hsetter)
    simp only [size, List.length_dropLast, List.length_cons]
    omega
  · split <;> simp only [size] <;> omega
  · simp only [size]
    omega

/-- Every step of a task leaves fewer to take. -/
theorem size_lt_of_advance {table after : Table} {task next : Task}
    (h : task.advance table = .ok (.task next, after)) : next.size < task.size := by
  obtain ⟨step, setters⟩ := task
  cases step with
  | search text =>
    simp only [advance] at h
    split at h
    · next id _ =>
      simp only [Except.ok.injEq, Prod.mk.injEq] at h
      have hnext := size_lt_of_resume h.1
      simp only [size] at hnext ⊢
      omega
    · simp only [Except.ok.injEq, Prod.mk.injEq, Progress.task.injEq] at h
      exact h.1 ▸ size_afterMiss_lt text setters
  | allocate text scope =>
    simp only [advance] at h
    split at h
    · simp only [Except.ok.injEq, Prod.mk.injEq, Progress.task.injEq] at h
      simp only [← h.1, size]
      omega
    · cases h
  | publish text id =>
    simp only [advance, Except.ok.injEq, Prod.mk.injEq] at h
    have hnext := size_lt_of_resume h.1
    simp only [size] at hnext ⊢
    omega

/-- The rest of a task when nobody else takes a step. -/
def finish (table : Table) (task : Task) : Except Fault (SymbolId × Table) :=
  match _hadvance : task.advance table with
  | .ok (.task next, after) => next.finish after
  | .ok (.answered id, after) => .ok (id, after)
  | .error fault => .error fault
termination_by task.size
decreasing_by exact size_lt_of_advance _hadvance

end Task

/-! ### Workers -/

/-- A worker: the interning that it is at, and the names that it has yet to begin. -/
structure Worker where
  task : Option Task
  names : List Text

/-- Who acts next, by places among the workers: one that takes a step, or one that has nothing to
do and takes over the last names of another. -/
inductive Turn where
  | work (place : Nat)
  | steal (place : Nat) (names : Nat)
deriving DecidableEq

/-- The registry that workers share, the workers that have something to do, and the identifiers of
the names that are done. -/
structure Pool where
  registry : Registry
  workers : List Worker
  ids : List SymbolId

namespace Pool

/-- One worker has all the names. -/
def start (registry : Registry) (names : List Text) : Pool :=
  ⟨registry, [⟨none, names⟩], []⟩

/-- A worker takes a step of its task, or begins its next name, or leaves when it has none. -/
def work (pool : Pool) (place : Nat) : Except Fault Pool :=
  match pool.workers[place]? with
  | none => .ok pool
  | some ⟨none, []⟩ => .ok { pool with workers := pool.workers.eraseIdx place }
  | some ⟨none, name :: names⟩ =>
    .ok { pool with workers := pool.workers.set place ⟨some (.start name), names⟩ }
  | some ⟨some task, names⟩ =>
    match task.advance pool.registry.table with
    | .ok (.task next, after) =>
      .ok { pool with
        registry := { pool.registry with table := after }
        workers := pool.workers.set place ⟨some next, names⟩ }
    | .ok (.answered id, after) =>
      .ok ⟨{ pool.registry with table := after }, pool.workers.set place ⟨none, names⟩,
        pool.ids ++ [id]⟩
    | .error fault => .error fault

/-- A further worker takes over the last names of another, unless as many as there are jobs have
something to do already. -/
def steal (pool : Pool) (jobs place names : Nat) : Pool :=
  match pool.workers[place]? with
  | none => pool
  | some victim =>
    if pool.workers.length < jobs then
      let kept := victim.names.length - names
      { pool with
        workers := pool.workers.set place ⟨victim.task, victim.names.take kept⟩ ++
          [⟨none, victim.names.drop kept⟩] }
    else pool

/-- The effect of a turn. A fault of one worker ends the work of all. -/
def turn (jobs : Nat) (pool : Pool) : Turn → Except Fault Pool
  | .work place => pool.work place
  | .steal place names => .ok (pool.steal jobs place names)

/-- The effect of turns, one after the other. -/
def run (jobs : Nat) (pool : Pool) : List Turn → Except Fault Pool
  | [] => .ok pool
  | turn :: turns =>
    match pool.turn jobs turn with
    | .ok next => next.run jobs turns
    | .error fault => .error fault

end Pool

/-- Interns names in order and answers their identifiers. -/
def Registry.internAll (registry : Registry) :
    List Text → Except Fault (List SymbolId) × Registry
  | [] => (.ok [], registry)
  | name :: names =>
    match registry.intern name with
    | (.error fault, after) => (.error fault, after)
    | (.ok id, after) =>
      match after.internAll names with
      | (.ok ids, after) => (.ok (id :: ids), after)
      | (.error fault, after) => (.error fault, after)

/-- Interns names in order after others, whose identifiers stand before theirs. -/
def Registry.internOnto (registry : Registry) (ids : List SymbolId) (names : List Text) :
    Except Fault (List SymbolId × Registry) :=
  match registry.internAll names with
  | (.ok more, after) => .ok (ids ++ more, after)
  | (.error fault, _) => .error fault

/-- A worker finishes its task, if it is at one, and interns the rest of its names while the others
stand still. -/
def Worker.finish (registry : Registry) (ids : List SymbolId) (worker : Worker) :
    Except Fault (List SymbolId × Registry) :=
  match worker.task with
  | none => registry.internOnto ids worker.names
  | some task =>
    match task.finish registry.table with
    | .ok (id, table) =>
      Registry.internOnto { registry with table := table } (ids ++ [id]) worker.names
    | .error fault => .error fault

/-- Workers finish one after the other. -/
def Worker.finishAll (registry : Registry) (ids : List SymbolId) :
    List Worker → Except Fault (List SymbolId × Registry)
  | [] => .ok (ids, registry)
  | worker :: workers =>
    match worker.finish registry ids with
    | .ok (ids, after) => Worker.finishAll after ids workers
    | .error fault => .error fault

/-- The workers of a pool finish, and the identifiers of all names are answered with the registry
that holds the names. -/
def Pool.finish (pool : Pool) : Except Fault (List SymbolId × Registry) :=
  Worker.finishAll pool.registry pool.ids pool.workers

/-- Interns names by as many workers as there are jobs, under a schedule. -/
def Registry.internTogether (registry : Registry) (jobs : Nat) (schedule : List Turn)
    (names : List Text) : Except Fault (List SymbolId × Registry) :=
  match (Pool.start registry names).run jobs schedule with
  | .ok pool => pool.finish
  | .error fault => .error fault

end Interning
