import Interning.Command

/-!
# How a batch runs

The batch command asks a system for four things, one after the other: the document that holds the
names, the workers, and the time twice. `Batch.Source` is any system whose answers are determined by
its state, with the file to read, and what it answers to these requests is read off the states that
it goes through (`Source.reading`, `Source.starting`, `Source.clockBefore`, `Source.clockAfter`).

`Source.Leaves.run_eq` gives the answer of the command from these and from the registry that the
workers leave behind, and says nothing of the names themselves.
-/

set_option autoImplicit false
set_option relaxedAutoImplicit false

namespace Interning.Batch

/-- A request is answered in the state that the one before it has left behind. -/
theorem run_bind {σ α β : Type} (request : StateM σ α) (next : α → StateM σ β) (system : σ) :
    Id.run ((request >>= next).run system) =
      Id.run ((next (Id.run (request.run system)).1).run (Id.run (request.run system)).2) := rfl

/-- The reports of what a registry holds besides the operators. -/
def symbolsOf (registry : Registry) : List SymbolReport :=
  (registry.records.filter fun record ↦ !record.id.isOperator).map .ofRecord

/-- Where a batch is run: a system in a state, and the file with the names. -/
structure Source (σ : Type) where
  host : Host (StateM σ)
  system : σ
  file : Text

namespace Source

/-- Files as data, with a document at the standard input. -/
def ofTree (tree : FileTree) (input : Option Text) (file : Text) : Source FileTree :=
  ⟨FileTree.host input, tree, file⟩

section Requests

variable {σ : Type} (source : Source σ)

/-- The document, and the state once it has been read. -/
def reading : Option Text × σ :=
  Id.run ((source.host.readDocument source.file).run source.system)

/-- The schedule of the workers or the reason why there is none, and the state afterwards. -/
def starting (jobs : UInt64) : Except Text (List Turn) × σ :=
  Id.run ((source.host.startWorkers jobs).run source.reading.2)

/-- The time before the names are interned, and the state afterwards. -/
def clockBefore (jobs : UInt64) : Nat × σ :=
  Id.run (source.host.milliseconds.run (source.starting jobs).2)

/-- The time when the names have been interned, and the state afterwards. -/
def clockAfter (jobs : UInt64) : Nat × σ :=
  Id.run (source.host.milliseconds.run (source.clockBefore jobs).2)

/-- The milliseconds that the workers have taken. -/
def elapsed (jobs : UInt64) : Nat :=
  (source.clockAfter jobs).1 - (source.clockBefore jobs).1

/-- The answer of the batch command, and the state that it leaves behind. -/
def run (around : Surroundings) (settings : Settings) (jobs : Option UInt64)
    (format : Option OutputFormat) (dump : Bool) : Except CommandError Text × σ :=
  Id.run (((Command.batch source.file jobs format dump).run source.host around settings).run
    source.system)

end Requests

/-- The names can be read, and the system starts as many workers as there are jobs. -/
structure Opens {σ : Type} (source : Source σ) (jobs : UInt64) (document : Text) : Prop where
  reading_eq : source.reading.1 = some document
  exists_schedule : ∃ schedule, (source.starting jobs).1 = .ok schedule

/-- Workers have interned the names of a document under the schedule that the system has given them,
and have left a registry behind. -/
structure Leaves {σ : Type} (source : Source σ) (around : Surroundings) (settings : Settings)
    (jobs : UInt64) (document : Text) (ids : List SymbolId) (after : Registry) : Prop where
  reading_eq : source.reading.1 = some document
  jobs_ne : jobs ≠ 0
  exists_internTogether : ∃ start schedule,
    Registry.create (settings.registryConfig around.machine around.environment) = .ok start ∧
      (source.starting jobs).1 = .ok schedule ∧
        start.internTogether jobs.toNat schedule (names document) = .ok (ids, after)

/-- A batch that reads files as data leaves them as they are. -/
theorem reading_ofTree (tree : FileTree) (input : Option Text) (file : Text) :
    (ofTree tree input file).reading =
      (if isStandardInput file then input else tree.read file, tree) := by
  unfold reading ofTree Host.readDocument
  by_cases hinput : isStandardInput file = true
  · rw [if_pos hinput, if_pos hinput]
    rfl
  · rw [if_neg hinput, if_neg hinput]
    rfl

theorem opens_ofTree {tree : FileTree} {input : Option Text} {file document : Text}
    (h : (if isStandardInput file then input else tree.read file) = some document)
    (jobs : UInt64) : (ofTree tree input file).Opens jobs document where
  reading_eq := by rw [reading_ofTree, h]
  exists_schedule := ⟨[], rfl⟩

variable {σ : Type} {source : Source σ} {around : Surroundings} {settings : Settings}
  {document : Text} {ids : List SymbolId} {after : Registry}

/-- The answer of the command sums up the registry that the workers have left behind. -/
theorem Leaves.run_eq {jobs : Option UInt64}
    (h : source.Leaves around settings (jobs.getD settings.jobs) document ids after)
    (format : Option OutputFormat) (dump : Bool) :
    source.run around settings jobs format dump =
      (.ok ((summarize after (names document).length (countDistinct ids)
          (jobs.getD settings.jobs).toNat dump).render (format.getD settings.format)
          (source.elapsed (jobs.getD settings.jobs))),
        (source.clockAfter (jobs.getD settings.jobs)).2) := by
  obtain ⟨hdocument, hjobs, start, schedule, hstart, hschedule, hnames⟩ := h
  have hopen : settings.openRegistry around = .ok start := by
    rw [Settings.openRegistry, hstart]
  unfold run Command.run runBatch
  simp only [if_neg hjobs]
  rw [run_bind, ← reading, hdocument]
  simp only [hopen]
  rw [run_bind, ← starting, hschedule]
  simp only
  rw [run_bind, ← clockBefore]
  simp only [hnames]
  rw [run_bind, ← clockAfter]
  rfl

end Source

end Interning.Batch
