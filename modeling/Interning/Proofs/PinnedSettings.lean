import Interning.Proofs.ConfigLayers
import Interning.Proofs.FileTreeWrites
import Interning.Proofs.SettingsDocument

/-!
# A written configuration stays in effect

The settings in effect under some surroundings have a value for every registry key. Whatever
environment and machine they meet later, nothing is left to fill in, so the setup they ask for and
their document stay the same (`Settings.registryConfig_effective`, `Settings.effective_effective`).

`Settings.PinnedAt` says this of the file that the configuration command writes: it is loaded under
any surroundings as settings with the same setup, and writing what was loaded gives the same
document again, in this place or another. `Settings.layers_and_pinnedAt` proves it of every run of
the command on a tree of files that succeeds, from whatever working directory and to whatever path,
one that begins at the root as well as one that does not, and for the setup whose layers
`Settings.Layers` describes. A tree has no links and is changed by nobody else. The steps are that
the document is read back (`Settings.IsDocument.read_eq`) and that the file is
(`FileTree.save_of_save`).
-/

set_option autoImplicit false
set_option relaxedAutoImplicit false

namespace Interning

/-! ### The settings in effect -/

theorem RegistrySection.applyTo_ofConfig (config base : RegistryConfig) :
    (RegistrySection.ofConfig config).applyTo base = config := rfl

namespace Settings

variable {settings : Settings} {around : Surroundings} {tree after : FileTree}
  {input : Option Text} {working : List Text} {path document output : Text}

/-- The settings in effect set every key, so that nothing is left to the surroundings. -/
theorem registryConfig_effective (settings : Settings) (around other : Surroundings) :
    (settings.effective around.machine around.environment).registryConfig other.machine
      other.environment = settings.registryConfig around.machine around.environment := by
  rw [registryConfig, effective, RegistrySection.applyTo_ofConfig]

theorem effective_effective (settings : Settings) (around other : Surroundings) :
    (settings.effective around.machine around.environment).effective other.machine
      other.environment = settings.effective around.machine around.environment := by
  rw [effective, registryConfig_effective]
  rfl

/-! ### The command on a tree -/

/-- The answer of the command that writes the configuration to a path from a working directory, and
the files that it leaves behind. -/
def runWrite (settings : Settings) (around : Surroundings) (input : Option Text)
    (working : List Text) (path : Text) (tree : FileTree) : Except CommandError Text × FileTree :=
  Id.run ((runConfig (FileTree.host input working) around settings (some path)).run tree)

/-- The settings that are loaded from a path, and the files as they were. -/
def runLoad (machine : Machine) (input : Option Text) (working : List Text) (path : Text)
    (tree : FileTree) : Except CommandError Settings × FileTree :=
  Id.run ((Settings.load (FileTree.host input working) machine path).run tree)

/-- The directories are made before it is known whether there is a document. -/
theorem runWrite_eq : settings.runWrite around input working path tree =
    (tree.makeParents path working).elim (.error .io, tree) fun made ↦
      (settings.effective around.machine around.environment).write.elim
        (.error .tooLargeToWrite, made) fun document ↦
          (made.write path document working).elim (.error .io, made) fun after ↦
            (.ok [], after) := by
  simp only [runWrite, runConfig, save, FileTree.makeParents_host, FileTree.writeFile_host,
    StateT.run_bind, FileTree.run_change, pure_bind]
  cases tree.makeParents path working with
  | none => rfl
  | some made =>
    cases hdocument : (settings.effective around.machine around.environment).write with
    | none => simp [encode, hdocument]
    | some document =>
      cases hwritten : made.write path document working <;>
        simp [encode, hdocument, FileTree.run_change, hwritten]

theorem runWrite_eq_ok_iff :
    settings.runWrite around input working path tree = (.ok output, after) ↔
      output = [] ∧ ∃ document,
        (settings.effective around.machine around.environment).write = some document ∧
          tree.save working path document = some after := by
  rw [runWrite_eq]
  unfold FileTree.save
  cases tree.makeParents path working with
  | none => simp
  | some made =>
    cases (settings.effective around.machine around.environment).write with
    | none => simp
    | some document =>
      cases hwritten : made.write path document working <;> simp [hwritten, eq_comm]

theorem runLoad_eq {machine : Machine}
    (hfile : (tree.locate path working).any tree.holdsFile = true)
    (hdocument : tree.read path working = some document)
    (hread : Settings.read machine document = some settings) :
    runLoad machine input working path tree = (.ok settings, tree) := by
  unfold runLoad Settings.load
  simp [FileTree.host, hfile, hdocument, hread]

/-! ### The file that pins -/

/-- Loaded settings are the same as settings and set a registry up the same way, each under its own
surroundings. -/
structure Restores (settings : Settings) (around : Surroundings) (loaded : Settings)
    (other : Surroundings) : Prop where
  verbose_eq : loaded.verbose = settings.verbose
  format_eq : loaded.format = settings.format
  jobs_eq : loaded.jobs = settings.jobs
  registryConfig_eq : loaded.registryConfig other.machine other.environment =
    settings.registryConfig around.machine around.environment

/-- The file of a path pins settings: loaded under any surroundings it restores them, and what is
loaded is written as the same document, back to the path or to any other. A path that begins in a
working directory is followed from there again, and one that begins at the root from anywhere. -/
structure PinnedAt (settings : Settings) (around : Surroundings) (working : List Text)
    (path document : Text) (tree : FileTree) : Prop where
  read_eq : tree.read path working = some document
  load : ∀ other input elsewhere, Path.origin elsewhere path = Path.origin working path →
    ∃ loaded, runLoad other.machine input elsewhere path tree = (.ok loaded, tree) ∧
      settings.Restores around loaded other
  rewrite : ∀ other input elsewhere loaded,
    Path.origin elsewhere path = Path.origin working path →
      runLoad other.machine input elsewhere path tree = (.ok loaded, tree) →
        loaded.runWrite other input elsewhere path tree = (.ok [], tree)
  copy : ∀ other input elsewhere loaded,
    Path.origin elsewhere path = Path.origin working path →
      runLoad other.machine input elsewhere path tree = (.ok loaded, tree) →
        ∀ place target start output last,
          loaded.runWrite other input place target start = (.ok output, last) →
            last.read target place = some document

theorem restores_effective (settings : Settings) (around other : Surroundings) :
    settings.Restores around (settings.effective around.machine around.environment) other where
  verbose_eq := rfl
  format_eq := rfl
  jobs_eq := rfl
  registryConfig_eq := registryConfig_effective settings around other

/-- A file that holds the document of the settings in effect is loaded as these, whoever loads
it. -/
theorem pinnedAt_of_save
    (hwrite : (settings.effective around.machine around.environment).write = some document)
    (hsave : tree.save working path document = some after) :
    settings.PinnedAt around working path document after := by
  have hload (other : Surroundings) (input : Option Text) {elsewhere : List Text}
      (horigin : Path.origin elsewhere path = Path.origin working path) :
      runLoad other.machine input elsewhere path after =
        (.ok (settings.effective around.machine around.environment), after) := by
    rw [← FileTree.save_congr horigin] at hsave
    obtain ⟨hfile, hread, -⟩ := FileTree.save_of_save hsave
    exact runLoad_eq hfile hread ((isDocument_of_write hwrite).read_eq other.machine)
  have hloaded {other : Surroundings} {input : Option Text} {elsewhere : List Text}
      {loaded : Settings} (horigin : Path.origin elsewhere path = Path.origin working path)
      (h : runLoad other.machine input elsewhere path after = (.ok loaded, after)) :
      loaded = settings.effective around.machine around.environment :=
    Except.ok.inj (Prod.mk.inj ((hload other input horigin).symm.trans h)).1.symm
  obtain ⟨-, hread, hagain⟩ := FileTree.save_of_save hsave
  constructor
  case read_eq => exact hread
  case load =>
    exact fun other input elsewhere horigin ↦
      ⟨_, hload other input horigin, restores_effective settings around other⟩
  case rewrite =>
    intro other input elsewhere loaded horigin h
    obtain rfl := hloaded horigin h
    rw [runWrite_eq_ok_iff, effective_effective]
    exact ⟨rfl, document, hwrite, (FileTree.save_congr horigin after document).trans hagain⟩
  case copy =>
    intro other input elsewhere loaded horigin h place target start output last hrun
    obtain rfl := hloaded horigin h
    rw [runWrite_eq_ok_iff, effective_effective] at hrun
    obtain ⟨-, written, hwritten, htarget⟩ := hrun
    obtain rfl := Option.some.inj (hwrite.symm.trans hwritten)
    exact (FileTree.save_of_save htarget).2.1

/-- The setup in effect has its layers, and writing the configuration pins it: under which
surroundings the file is read makes no difference any more. -/
theorem layers_and_pinnedAt (settings : Settings) (around : Surroundings) :
    settings.Layers around.machine around.environment ∧
      ∀ input working path tree output after,
        settings.runWrite around input working path tree = (.ok output, after) →
          output = [] ∧ ∃ document, settings.PinnedAt around working path document after := by
  refine ⟨settings.layers around.machine around.environment, ?_⟩
  intro input working path tree output after hrun
  obtain ⟨houtput, document, hwrite, hsave⟩ := runWrite_eq_ok_iff.mp hrun
  exact ⟨houtput, document, pinnedAt_of_save hwrite hsave⟩

/-- The floor is the file's, the number of shards and the counting are the environment's, and the
capacity is the default, since its variable holds no word. They are written to a path that begins at
the root, and to one that begins in the working directory. -/
theorem partial_layers_and_pinnedAt :
    let settings : Settings := ⟨true, .json, 3, ⟨some 4096, none, none, none⟩⟩
    let around : Surroundings := ⟨⟨8⟩, [("RUBRIC_SYM_SEQUENCE_FLOOR", "5000".toList),
      ("RUBRIC_SYM_CAPACITY", "many".toList), ("RUBRIC_SYM_SHARDS", " +64 ".toList),
      ("RUBRIC_SYM_STATS", "False".toList)], none, none⟩
    let tree : FileTree := ⟨[], [["home".toList], ["tmp".toList]]⟩
    settings.registryConfig around.machine around.environment = ⟨4096, 1024, 64, false⟩ ∧
      settings.Layers around.machine around.environment ∧
      ∀ path ∈ ["/tmp/out/rubt.toml".toList, "../tmp/out/rubt.toml".toList], ∃ after document,
        settings.runWrite around none ["home".toList] path tree = (.ok [], after) ∧
          settings.PinnedAt around ["home".toList] path document after := by
  intro settings around tree
  have hconfig : settings.registryConfig around.machine around.environment =
      ⟨4096, 1024, 64, false⟩ := by
    decide
  have hfits : (settings.effective around.machine around.environment).Fits := by
    rw [effective, hconfig]
    simp [Fits, words, RegistrySection.ofConfig, settings]
  obtain ⟨document, hwrite⟩ := exists_write_of_fits hfits
  have hsave : ∀ path ∈ ["/tmp/out/rubt.toml".toList, "../tmp/out/rubt.toml".toList],
      tree.save ["home".toList] path document =
        some ⟨[(["tmp".toList, "out".toList, "rubt.toml".toList], some document)],
          [["tmp".toList, "out".toList], ["home".toList], ["tmp".toList]]⟩ := by
    simp only [List.forall_mem_cons]
    exact ⟨rfl, rfl, by simp⟩
  obtain ⟨hlayers, hpinned⟩ := layers_and_pinnedAt settings around
  refine ⟨hconfig, hlayers, fun path hpath ↦ ?_⟩
  have hrun : settings.runWrite around none ["home".toList] path tree = (.ok [], _) :=
    runWrite_eq_ok_iff.mpr ⟨rfl, document, hwrite, hsave path hpath⟩
  obtain ⟨-, pinned, h⟩ := hpinned _ _ _ _ _ _ hrun
  exact ⟨_, pinned, hrun, h⟩

end Settings

end Interning
