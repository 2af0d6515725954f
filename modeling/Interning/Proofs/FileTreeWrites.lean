import Interning.Host

/-!
# Writing a file of a tree

A file is saved in two steps. The directories on the way to it are made, unless a file is in the
way, and the text is put at the place that the path leads to, unless that is a directory.
`FileTree.save` is the two in turn. A path begins at the root of the tree or in the working
directory, and nothing below depends on which of the two.

Both steps only add directories, so whatever path led to a place before leads there afterwards
(`FileTree.Keeps.locate`). The file that is put is not in the way of the directories that were
made, since its place was found to be none of them (`FileTree.Leads.put`). Hence the text is read
back from the path, and saving it again changes nothing, not even the order of the files
(`FileTree.save_of_save`).
-/

set_option autoImplicit false
set_option relaxedAutoImplicit false

namespace Interning

namespace FileTree

variable {tree after made : FileTree} {place last : List Text} {names working : List Text}
  {path content : Text}

/-! ### Directories stay -/

/-- Every directory of a tree is one of another. -/
def Keeps (tree after : FileTree) : Prop :=
  ∀ place, tree.isDirectory place = true → after.isDirectory place = true

theorem Keeps.refl (tree : FileTree) : tree.Keeps tree :=
  fun _ h ↦ h

theorem Keeps.trans {last : FileTree} (h : tree.Keeps after) (hlast : after.Keeps last) :
    tree.Keeps last :=
  fun place hplace ↦ hlast place (h place hplace)

/-- Names are followed through directories, so they lead to the same place. -/
theorem Keeps.follow (h : tree.Keeps after) (hfollow : tree.follow place names = some last) :
    after.follow place names = some last := by
  induction names generalizing place with
  | nil => exact hfollow
  | cons name rest ih =>
    unfold FileTree.follow at hfollow ⊢
    cases hdirectory : tree.isDirectory place with
    | false => simp [hdirectory] at hfollow
    | true =>
      rw [hdirectory] at hfollow
      rw [h place hdirectory]
      simp only [Bool.not_true, Bool.false_eq_true, if_false] at hfollow ⊢
      split
      · next hup =>
        rw [if_pos hup] at hfollow
        exact ih hfollow
      · next hdown =>
        rw [if_neg hdown] at hfollow
        exact ih hfollow

theorem Keeps.locate (h : tree.Keeps after) (hlocate : tree.locate path working = some place) :
    after.locate path working = some place := by
  unfold FileTree.locate at hlocate ⊢
  split
  · next haccepted =>
    rw [if_pos haccepted] at hlocate
    exact h.follow hlocate
  · next hrefused =>
    rw [if_neg hrefused] at hlocate
    exact hlocate

/-! ### The file that is put -/

/-- The tree with a text as the file of a place. -/
def put (tree : FileTree) (place : List Text) (content : Text) : FileTree :=
  { tree with files := (place, some content) :: tree.files.filter fun file ↦ file.1 != place }

theorem write_eq_some_iff : tree.write path content working = some after ↔
    ∃ place, tree.locate path working = some place ∧ tree.isDirectory place = false ∧
      after = tree.put place content := by
  unfold write
  cases hlocate : tree.locate path working with
  | none => simp
  | some place =>
    cases hdirectory : tree.isDirectory place with
    | true => simp [hdirectory]
    | false =>
      simp only [hdirectory, Bool.false_eq_true, if_false, Option.some.injEq]
      constructor
      · rintro rfl
        exact ⟨place, rfl, hdirectory, rfl⟩
      · rintro ⟨_, rfl, -, rfl⟩
        rfl

theorem lookup_files_put (tree : FileTree) (place : List Text) (content : Text) :
    (tree.put place content).files.lookup place = some (some content) := by
  rw [put, List.lookup_cons_self]

/-- Nothing is found at a place among the files of other places but what was there. -/
theorem lookup_filter_ne {other : List Text} (hother : other ≠ place)
    (files : List (List Text × Option Text)) :
    (files.filter fun file ↦ file.1 != place).lookup other = files.lookup other := by
  induction files with
  | nil => rfl
  | cons file files ih =>
    by_cases hfile : file.1 = place
    · have hskip : (other == file.1) = false := beq_false_of_ne (hfile ▸ hother)
      rw [List.filter_cons_of_neg (by simpa using hfile), List.lookup_cons, hskip]
      exact ih
    · rw [List.filter_cons_of_pos (by simpa using hfile), List.lookup_cons, List.lookup_cons, ih]

/-- Every other place holds a file if it did. -/
theorem holdsFile_put {other : List Text} (hother : other ≠ place) :
    (tree.put place content).holdsFile other = tree.holdsFile other := by
  have hskip : (other == place) = false := beq_false_of_ne hother
  rw [holdsFile, put, List.lookup_cons, hskip, lookup_filter_ne hother]
  rfl

theorem keeps_put (tree : FileTree) (place : List Text) (content : Text) :
    tree.Keeps (tree.put place content) := by
  intro other hother
  simp only [isDirectory, put, Bool.or_eq_true, List.any_eq_true, List.mem_cons,
    List.mem_filter] at hother ⊢
  rcases hother with h | ⟨file, hfile, hbelow⟩
  · exact .inl h
  · by_cases hplace : file.1 = place
    · exact .inr ⟨(place, some content), .inl rfl, hplace ▸ hbelow⟩
    · exact .inr ⟨file, .inr ⟨hfile, by simpa using hplace⟩, hbelow⟩

/-- The place of a file does not become a directory by putting the file. -/
theorem isDirectory_put_self (h : tree.isDirectory place = false) :
    (tree.put place content).isDirectory place = false := by
  simp only [isDirectory, put, Bool.or_eq_false_iff, List.any_cons, bne_self_eq_false,
    Bool.and_false, Bool.false_or] at h ⊢
  refine ⟨h.1, List.any_eq_false.mpr fun file hfile ↦ ?_⟩
  exact List.any_eq_false.mp h.2 file (List.mem_filter.mp hfile).1

/-- The last text stays. -/
theorem put_put (tree : FileTree) (place : List Text) (first second : Text) :
    (tree.put place first).put place second = tree.put place second := by
  simp [put, List.filter_filter]

/-! ### Directories on the way -/

/-- Names lead through directories that no file is in the way of. -/
inductive Leads (tree : FileTree) : List Text → List Text → Prop
  | nil (place : List Text) : Leads tree place []
  | up {place rest : List Text} (hplace : tree.isDirectory place = true)
      (hrest : Leads tree place.dropLast rest) : Leads tree place (Path.upward :: rest)
  | down {place rest : List Text} {name : Text} (hplace : tree.isDirectory place = true)
      (hname : name ≠ Path.upward) (hfile : tree.holdsFile (place ++ [name]) = false)
      (hdirectory : tree.isDirectory (place ++ [name]) = true)
      (hrest : Leads tree (place ++ [name]) rest) : Leads tree place (name :: rest)

/-- Where every directory is there already, none is made. -/
theorem Leads.makeDirectories_eq (h : tree.Leads place names) :
    tree.makeDirectories place names = some tree := by
  induction h with
  | nil => rfl
  | up hplace _ ih =>
    rw [makeDirectories, hplace]
    simpa using ih
  | down hplace hname hfile hdirectory _ ih =>
    rw [makeDirectories, hplace, if_neg (by simp), if_neg hname]
    simpa [hfile, hdirectory] using ih

theorem keeps_cons_directories (tree : FileTree) (place : List Text) :
    tree.Keeps { tree with directories := place :: tree.directories } := by
  intro other hother
  simp only [isDirectory, List.any_cons, Bool.or_eq_true] at hother ⊢
  exact hother.imp_left (.imp_right .inr)

theorem isDirectory_cons_directories (tree : FileTree) (place : List Text) :
    isDirectory { tree with directories := place :: tree.directories } place = true := by
  simp [isDirectory]

/-- Directories are made until the names lead through them; files stay as they are. -/
theorem leads_of_makeDirectories (hmade : tree.makeDirectories place names = some made) :
    made.files = tree.files ∧ tree.Keeps made ∧ made.Leads place names := by
  induction names generalizing tree place with
  | nil =>
    obtain rfl := Option.some.inj hmade
    exact ⟨rfl, .refl tree, .nil place⟩
  | cons name rest ih =>
    unfold makeDirectories at hmade
    cases hplace : tree.isDirectory place with
    | false => simp [hplace] at hmade
    | true =>
      rw [hplace, if_neg (by simp)] at hmade
      split at hmade
      · next hup =>
        subst hup
        obtain ⟨hfiles, hkeeps, hleads⟩ := ih hmade
        exact ⟨hfiles, hkeeps, .up (hkeeps place hplace) hleads⟩
      · next hname =>
        dsimp only at hmade
        split at hmade
        · cases hmade
        · next hfile =>
          have hdown (start : FileTree) (hsame : start.files = tree.files)
              (hstart : tree.Keeps start)
              (hdirectory : start.isDirectory (place ++ [name]) = true)
              (hrest : start.makeDirectories (place ++ [name]) rest = some made) :
              made.files = tree.files ∧ tree.Keeps made ∧ made.Leads place (name :: rest) := by
            obtain ⟨hfiles, hkeeps, hleads⟩ := ih hrest
            have hall := hstart.trans hkeeps
            refine ⟨hfiles.trans hsame, hall, .down (hall place hplace) hname ?_ ?_ hleads⟩
            · rw [holdsFile, hfiles, hsame]
              exact Bool.not_eq_true _ ▸ hfile
            · exact hkeeps _ hdirectory
          by_cases hdirectory : tree.isDirectory (place ++ [name]) = true
          · rw [if_pos hdirectory] at hmade
            exact hdown tree rfl (.refl tree) hdirectory hmade
          · rw [if_neg hdirectory] at hmade
            exact hdown { tree with directories := (place ++ [name]) :: tree.directories } rfl
              (keeps_cons_directories tree _) (isDirectory_cons_directories tree _) hmade

/-- A file whose place is no directory is not in the way. -/
theorem Leads.put {target : List Text} (h : tree.Leads place names)
    (htarget : tree.isDirectory target = false) : (tree.put target content).Leads place names := by
  induction h with
  | nil place => exact .nil place
  | up hplace _ ih => exact .up (keeps_put _ _ _ _ hplace) ih
  | @down place rest name hplace hname hfile hdirectory _ ih =>
    have hother : place ++ [name] ≠ target := by
      rintro rfl
      rw [htarget] at hdirectory
      cases hdirectory
    exact .down (keeps_put _ _ _ _ hplace) hname ((holdsFile_put hother).trans hfile)
      (keeps_put _ _ _ _ hdirectory) ih

/-! ### Saving -/

/-- The tree with a text at a path and the directories that lead to it. -/
def save (tree : FileTree) (working : List Text) (path content : Text) : Option FileTree :=
  (tree.makeParents path working).bind (·.write path content working)

/-- Where a path begins at the same place it leads to the same one, so that an absolute path leads
there from every working directory. -/
theorem locate_congr {elsewhere : List Text}
    (h : Path.origin elsewhere path = Path.origin working path) (tree : FileTree) :
    tree.locate path elsewhere = tree.locate path working := by
  rw [locate, locate, h]

theorem save_congr {elsewhere : List Text}
    (h : Path.origin elsewhere path = Path.origin working path) (tree : FileTree)
    (content : Text) : tree.save elsewhere path content = tree.save working path content := by
  unfold save makeParents write
  simp only [h, locate_congr h]

/-- The directories that were made are still there when a file has been put outside them. -/
theorem makeParents_put (hparents : tree.makeParents path working = some made)
    (hplace : made.isDirectory place = false) :
    (made.put place content).makeParents path working = some (made.put place content) := by
  unfold makeParents at hparents ⊢
  dsimp only at hparents ⊢
  split
  · next haccepted =>
    rw [if_pos haccepted] at hparents
    obtain ⟨-, -, hleads⟩ := leads_of_makeDirectories hparents
    exact (hleads.put hplace).makeDirectories_eq
  · next hrefused =>
    rw [if_neg hrefused] at hparents
    cases hparents

/-- A text that is saved is the file of its path, and saving it again leaves the tree as it is. -/
theorem save_of_save (hsave : tree.save working path content = some after) :
    (after.locate path working).any after.holdsFile = true ∧
      after.read path working = some content ∧
        after.save working path content = some after := by
  obtain ⟨made, hparents, hwrite⟩ := Option.bind_eq_some_iff.mp hsave
  obtain ⟨place, hlocate, hplace, rfl⟩ := write_eq_some_iff.mp hwrite
  have hlookup := lookup_files_put made place content
  have hlocated := (keeps_put made place content).locate hlocate
  refine ⟨?_, ?_, ?_⟩
  · rw [hlocated, Option.any_some, holdsFile, hlookup, Option.isSome_some]
  · rw [read, hlocated]
    exact congrArg Option.join hlookup
  · rw [save, makeParents_put hparents hplace, Option.bind_some, write_eq_some_iff]
    exact ⟨place, hlocated, isDirectory_put_self hplace, (put_put made place content content).symm⟩

/-! ### The services of a tree -/

theorem run_change (attempt : FileTree → Option FileTree) (tree : FileTree) :
    (change attempt).run tree =
      pure ((attempt tree).elim (false, tree) fun after ↦ (true, after)) := by
  simp only [change, StateT.run_bind, StateT.run_get, pure_bind]
  cases attempt tree <;> rfl

theorem makeParents_host (input : Option Text) (working : List Text) (path : Text) :
    (host input working).makeParents path = change (·.makeParents path working) := rfl

theorem writeFile_host (input : Option Text) (working : List Text) (path content : Text) :
    (host input working).writeFile path content = change (·.write path content working) := rfl

end FileTree

end Interning
