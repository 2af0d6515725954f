import Interning.Proofs.BatchCounts
import Interning.Proofs.LiteralReader
import Interning.Proofs.SharedNumbers
import Mathlib.Data.List.Forall2

/-!
# Reading the names back from lines

In text format a command writes one line for each name, with fields between tabs. A name may hold
line feeds and tabs itself, and the lines can be told apart all the same: what a line shows of its
name is the literal, which holds no control, and the literal is the last field.

`Shows` is what a line says of a name: with a number of tabs, the field behind the last of them is
read as the literal of the name. An output `Frames` names if cutting it at its line feeds gives a
line for each name, in order, and nothing after the last line feed. It frames one list of names only
(`Frames.names_eq`). The output of a batch has its statistics in front (`FramesDump`), whose lines
have another number of tabs, so the names can be read from it as well (`FramesDump.names_eq`).

`frames_lines` frames whatever is written with the literal last, and `frames_output` reads the three
commands off it. For a batch it does so whatever registry the workers have left behind, and however
they have taken their turns. That they leave one behind is a matter of numbers: the names that are no
operators have one each for every schedule (`Settings.Provides`), where a single worker makes do with
one for each name that is new (`Settings.Accommodates`).
-/

set_option autoImplicit false
set_option relaxedAutoImplicit false

namespace Interning

/-! ### Lines and their fields -/

/-- A text may stand between tabs and line feeds. -/
def IsField (text : Text) : Prop :=
  '\t' ∉ text ∧ '\n' ∉ text

instance : DecidablePred IsField :=
  fun text ↦ inferInstanceAs (Decidable ('\t' ∉ text ∧ '\n' ∉ text))

/-- A line has a number of tabs, and in the field behind the last of them the literal of a name. -/
structure Shows (tabs : Nat) (name line : Text) : Prop where
  count_eq : line.count '\t' = tabs
  read?_eq : (line.splitOn '\t').getLast?.bind Literal.read? = some name

/-- Each name has a line in its place, and a line feed stands behind every line. -/
def Frames (tabs : Nat) (names : List Text) (output : Text) : Prop :=
  ∃ lines, output.splitOn '\n' = lines ++ [[]] ∧ List.Forall₂ (Shows tabs) names lines

/-- The same behind lines of statistics, which have one tab each. -/
def FramesDump (names : List Text) (output : Text) : Prop :=
  ∃ statistics lines, output.splitOn '\n' = statistics ++ (lines ++ [[]]) ∧
    (∀ line ∈ statistics, line.count '\t' = 1) ∧ List.Forall₂ (Shows 2) names lines

variable {α : Type} {tabs : Nat} {name : Text} {names other : List Text} {fields : List Text}
  {output : Text}

theorem leftUnique_shows (tabs : Nat) : Relator.LeftUnique (Shows tabs) := by
  intro first line second hfirst hsecond
  exact Option.some.inj (hfirst.read?_eq.symm.trans hsecond.read?_eq)

/-- An output frames one list of names. -/
theorem Frames.names_eq (h : Frames tabs names output) (hother : Frames tabs other output) :
    names = other := by
  obtain ⟨lines, hlines, hnames⟩ := h
  obtain ⟨lines', hlines', hnames'⟩ := hother
  obtain rfl := List.append_cancel_right (hlines.symm.trans hlines')
  exact List.left_unique_forall₂' (leftUnique_shows tabs) hnames hnames'

theorem count_of_forall₂_shows {lines : List Text} (h : List.Forall₂ (Shows tabs) names lines) :
    ∀ line ∈ lines, line.count '\t' = tabs := by
  induction h with
  | nil => simp
  | cons hshows _ ih => exact List.forall_mem_cons.mpr ⟨hshows.count_eq, ih⟩

/-- Of an output behind statistics, the lines of names are those with two tabs. -/
theorem filter_of_framesDump {statistics lines : List Text}
    (hlines : output.splitOn '\n' = statistics ++ (lines ++ [[]]))
    (hstatistics : ∀ line ∈ statistics, line.count '\t' = 1)
    (hnames : List.Forall₂ (Shows 2) names lines) :
    (output.splitOn '\n').filter (·.count '\t' == 2) = lines := by
  have hnone : statistics.filter (·.count '\t' == 2) = [] :=
    List.filter_eq_nil_iff.mpr fun line hline ↦ by simp [hstatistics line hline]
  have hall : lines.filter (·.count '\t' == 2) = lines :=
    List.filter_eq_self.mpr fun line hline ↦ by simp [count_of_forall₂_shows hnames line hline]
  rw [hlines, List.filter_append, List.filter_append, hnone, hall]
  simp

theorem FramesDump.names_eq (h : FramesDump names output) (hother : FramesDump other output) :
    names = other := by
  obtain ⟨statistics, lines, hlines, hstatistics, hnames⟩ := h
  obtain ⟨statistics', lines', hlines', hstatistics', hnames'⟩ := hother
  obtain rfl : lines = lines' := by
    rw [← filter_of_framesDump hlines hstatistics hnames,
      filter_of_framesDump hlines' hstatistics' hnames']
  exact List.left_unique_forall₂' (leftUnique_shows 2) hnames hnames'

/-! ### Writing lines -/

theorem not_mem_intercalate {separator c : Char} (hne : c ≠ separator)
    (h : ∀ field ∈ fields, c ∉ field) : c ∉ [separator].intercalate fields := by
  induction fields with
  | nil => simp
  | cons field rest ih =>
    obtain ⟨hfield, hrest⟩ := List.forall_mem_cons.mp h
    cases rest with
    | nil => simpa using hfield
    | cons next rest =>
      rw [List.intercalate_cons_cons]
      simp [hfield, hne, ih hrest]

/-- Fields have one tab less between them than there are fields. -/
theorem count_intercalate (hne : fields ≠ []) (h : ∀ field ∈ fields, '\t' ∉ field) :
    (['\t'].intercalate fields).count '\t' + 1 = fields.length := by
  induction fields with
  | nil => exact absurd rfl hne
  | cons field rest ih =>
    obtain ⟨hfield, hrest⟩ := List.forall_mem_cons.mp h
    cases rest with
    | nil => simp [List.count_eq_zero.mpr hfield]
    | cons next rest =>
      have hcount := ih (by simp) hrest
      rw [List.intercalate_cons_cons, List.length_cons, ← hcount]
      simp [List.count_eq_zero.mpr hfield]

/-- Lines written one after the other are cut apart at their line feeds. -/
theorem splitOn_flatMap_line (entries : List α) {fields : α → List Text}
    (h : ∀ entry ∈ entries, ∀ field ∈ fields entry, '\n' ∉ field) (rest : Text) :
    (entries.flatMap (fun entry ↦ line (fields entry)) ++ rest).splitOn '\n' =
      entries.map (fun entry ↦ ['\t'].intercalate (fields entry)) ++ rest.splitOn '\n' := by
  induction entries with
  | nil => rfl
  | cons entry entries ih =>
    obtain ⟨hentry, hentries⟩ := List.forall_mem_cons.mp h
    have hfree : '\n' ∉ ['\t'].intercalate (fields entry) :=
      not_mem_intercalate (by decide) hentry
    have hfirst := List.splitOn_eq_singleton hfree
    rw [List.splitOn_eq_splitOnP] at hfirst ih ⊢
    rw [List.flatMap_cons, line, List.append_assoc, List.append_assoc, List.singleton_append,
      List.splitOnP_append_cons _ _ (by simp), hfirst, ih hentries, List.map_cons]
    rfl

/-- Written with the literal of its name as the last field, an entry shows the name. -/
theorem shows_intercalate (h : ∀ field ∈ fields, IsField field)
    (hlast : fields.getLast? = some (Literal.literal name)) :
    Shows (fields.length - 1) name (['\t'].intercalate fields) := by
  have hne : fields ≠ [] := by
    rintro rfl
    simp at hlast
  have htabs : ∀ field ∈ fields, '\t' ∉ field := fun field hfield ↦ (h field hfield).1
  have hcount := count_intercalate hne htabs
  constructor
  case count_eq => omega
  case read?_eq =>
    rw [List.splitOn_intercalate '\t' htabs hne, hlast, Option.bind_some, Literal.read?_literal]

/-- An output frames the names of its entries if each is written with the literal of its name as
the last of its fields. -/
theorem frames_lines (entries : List α) {fields : α → List Text} {nameOf : α → Text}
    (h : ∀ entry ∈ entries, ∀ field ∈ fields entry, IsField field)
    (hlast : ∀ entry ∈ entries, (fields entry).getLast? = some (Literal.literal (nameOf entry)))
    (hlength : ∀ entry ∈ entries, (fields entry).length = tabs + 1) :
    Frames tabs (entries.map nameOf) (entries.flatMap fun entry ↦ line (fields entry)) := by
  have hcut := splitOn_flatMap_line entries
    (fun entry hentry field hfield ↦ (h entry hentry field hfield).2) []
  rw [List.append_nil] at hcut
  refine ⟨_, hcut, ?_⟩
  rw [List.forall₂_map_left_iff, List.forall₂_map_right_iff, List.forall₂_same]
  intro entry hentry
  have hshows := shows_intercalate (h entry hentry) (hlast entry hentry)
  rwa [hlength entry hentry, Nat.add_sub_cancel] at hshows

/-! ### The fields of a report -/

theorem isField_decimal (n : Nat) : IsField (Numeral.decimal n) := by
  constructor <;> intro hmem <;>
    exact absurd (Numeral.isDigit_of_mem_decimal hmem) (by decide)

theorem isField_literal (name : Text) : IsField (Literal.literal name) := by
  constructor <;> intro hmem <;>
    exact absurd (Literal.isPrintable_of_mem_literal hmem) (by decide)

theorem isField_scopeName (scope : Scope) : IsField scope.name.toList := by
  cases scope <;> decide

/-- The names of reports can be read from their lines. -/
theorem frames_renderSymbols {reports : List SymbolReport}
    (hdisplays : ∀ report ∈ reports, report.display = Literal.literal report.text) :
    Frames 2 (reports.map SymbolReport.text) (renderSymbols .text reports) := by
  refine frames_lines reports ?_ ?_ fun _ _ ↦ rfl
  · intro report hreport
    simp only [List.forall_mem_cons, hdisplays report hreport]
    exact ⟨isField_decimal _, isField_scopeName _, isField_literal _, by simp⟩
  · intro report hreport
    rw [hdisplays report hreport]
    rfl

theorem frames_renderLiterals (names : List Text) :
    Frames 0 names (renderLiterals .text names) := by
  have hframes : Frames 0 (names.map id) (names.flatMap fun name ↦ line [Literal.literal name]) :=
    frames_lines names (by simp [isField_literal]) (fun _ _ ↦ rfl) fun _ _ ↦ rfl
  rwa [List.map_id] at hframes

/-- The counts that a batch writes before its symbols. -/
def BatchSummary.statistics (summary : BatchSummary) (milliseconds : Nat) : List (String × Nat) :=
  summary.counts milliseconds ++ summary.stats.histogram.filterMap fun (scope, count) ↦
    if count = 0 then none else some ("scope." ++ scope.name, count)

theorem isField_of_mem_statistics {summary : BatchSummary} {milliseconds : Nat}
    {count : String × Nat} (h : count ∈ summary.statistics milliseconds) :
    IsField count.1.toList := by
  rcases List.mem_append.mp h with hcount | hscope
  · have hnames : ∀ name ∈ (summary.counts milliseconds).map Prod.fst, IsField name.toList := by
      simp only [BatchSummary.counts, List.map_cons, List.map_nil]
      decide
    exact hnames _ (List.mem_map_of_mem hcount)
  · obtain ⟨⟨scope, number⟩, -, hsome⟩ := List.mem_filterMap.mp hscope
    simp only [Option.ite_none_left_eq_some, Option.some.injEq] at hsome
    obtain ⟨-, rfl⟩ := hsome
    have hscope : IsField ("scope." ++ scope.name).toList := by
      cases scope <;> decide
    exact hscope

/-- The names of the symbols of a batch can be read from its output. -/
theorem framesDump_render {summary : BatchSummary} {symbols : List SymbolReport}
    (hsymbols : summary.symbols = some symbols)
    (hdisplays : ∀ symbol ∈ symbols, symbol.display = Literal.literal symbol.text)
    (milliseconds : Nat) :
    FramesDump (symbols.map SymbolReport.text) (summary.render .text milliseconds) := by
  have hoperands : ∀ count ∈ summary.statistics milliseconds,
      ∀ field ∈ [count.1.toList, Numeral.decimal count.2], IsField field := by
    intro count hcount
    simp only [List.forall_mem_cons]
    exact ⟨isField_of_mem_statistics hcount, isField_decimal _, by simp⟩
  have hrender : summary.render .text milliseconds =
      (summary.statistics milliseconds).flatMap BatchSummary.countLine ++
        renderSymbols .text symbols := by
    rw [BatchSummary.render, hsymbols]
    rfl
  obtain ⟨lines, hlines, hshows⟩ := frames_renderSymbols hdisplays
  have hcut := splitOn_flatMap_line (summary.statistics milliseconds)
    (fun count hcount field hfield ↦ (hoperands count hcount field hfield).2)
    (renderSymbols .text symbols)
  rw [hlines] at hcut
  refine ⟨_, lines, (congrArg _ hrender).trans hcut, ?_, hshows⟩
  intro text htext
  obtain ⟨count, hcount, rfl⟩ := List.mem_map.mp htext
  have htabs := count_intercalate (List.cons_ne_nil _ _)
    fun field hfield ↦ (hoperands count hcount field hfield).1
  exact Nat.succ.inj htabs

/-! ### The commands -/

section Commands

variable {around : Surroundings} {settings : Settings} {format : Option OutputFormat}

/-- What a batch in text format answers with a dump where its workers leave a registry behind: the
symbols are what this holds besides the operators, and their names can be read from the output,
however long the batch has taken. -/
structure FramesBatch {σ : Type} (source : Batch.Source σ) (around : Surroundings)
    (settings : Settings) (jobs : Option UInt64) (format : Option OutputFormat)
    (after : Registry) (summary : BatchSummary) : Prop where
  run_eq : source.run around settings jobs format true =
    (.ok (summary.render .text (source.elapsed (jobs.getD settings.jobs))),
      (source.clockAfter (jobs.getD settings.jobs)).2)
  symbols_eq : summary.symbols = some (Batch.symbolsOf after)
  frames : ∀ milliseconds, FramesDump ((Batch.symbolsOf after).map SymbolReport.text)
    (summary.render .text milliseconds)

theorem exists_framesBatch (hformat : format.getD settings.format = .text) {σ : Type}
    {source : Batch.Source σ} {jobs : Option UInt64} {document : Text} {ids : List SymbolId}
    {after : Registry}
    (h : source.Leaves around settings (jobs.getD settings.jobs) document ids after) :
    ∃ summary, FramesBatch source around settings jobs format after summary := by
  have hrun := h.run_eq format true
  rw [hformat] at hrun
  refine ⟨_, hrun, rfl, framesDump_render rfl fun symbol hsymbol ↦ ?_⟩
  obtain ⟨record, -, rfl⟩ := List.mem_map.mp hsymbol
  rfl

/-- There is a sequence number for each name that is no operator, so that as many workers as may be
find the numbers that they draw, also those that go to waste. -/
structure Settings.Provides (settings : Settings) (around : Surroundings) (names : List Text) :
    Prop where
  validate_eq : (settings.registryConfig around.machine around.environment).validate = .ok ()
  room : (settings.registryConfig around.machine around.environment).sequenceFloor.toNat +
    names.countP (classify · ≠ .operator) ≤ 2 ^ 61 - 1

/-- Wherever the names are provided for, the workers leave a registry behind. -/
theorem Settings.Provides.exists_leaves {σ : Type} {source : Batch.Source σ} {jobs : UInt64}
    {document : Text} (h : settings.Provides around (Batch.names document))
    (hopens : source.Opens jobs document) (hjobs : jobs ≠ 0) :
    ∃ ids after, source.Leaves around settings jobs document ids after := by
  obtain ⟨hdocument, schedule, hschedule⟩ := hopens
  have hstart := Registry.create_eq_ok_iff.mpr ⟨h.validate_eq, rfl⟩
  obtain ⟨ids, after, hnames⟩ :=
    Registry.exists_internTogether hstart h.room jobs.toNat schedule
  exact ⟨ids, after, hdocument, hjobs, _, schedule, hstart, hschedule, hnames⟩

/-- In text format the names of a command can be read from its output: the names that are inspected,
those that are interned where they are accommodated, and those that the workers of a batch have
recorded, in whatever order they took their turns. A single worker leaves the same symbols behind
as an interning of the names reports. -/
theorem frames_output {m : Type → Type} [Monad m] (host : Host m)
    (hformat : format.getD settings.format = .text) :
    (∀ names, ∃ output, (Command.inspect names format).run host around settings =
        pure (.ok output) ∧ Frames 0 names output) ∧
      (∀ names, settings.Accommodates around names →
        ∃ output, (Command.intern names format).run host around settings = pure (.ok output) ∧
          Frames 2 names output) ∧
      (∀ (σ : Type) (source : Batch.Source σ) (jobs : Option UInt64) (document : Text)
          (ids : List SymbolId) (after : Registry),
        source.Leaves around settings (jobs.getD settings.jobs) document ids after →
          ∃ summary, FramesBatch source around settings jobs format after summary) ∧
      (∀ (σ : Type) (source : Batch.Source σ) (jobs : UInt64) (document : Text),
        settings.Provides around (Batch.names document) → source.Opens jobs document → jobs ≠ 0 →
          ∃ ids after, source.Leaves around settings jobs document ids after) ∧
      (∀ (σ : Type) (source : Batch.Source σ) (document : Text),
        settings.Accommodates around (Batch.names document) → source.Opens 1 document →
          ∃ ids after reports, source.Leaves around settings 1 document ids after ∧
            internNames settings around (Batch.names document) = .ok reports ∧
              Batch.Lists (Batch.names document) reports (Batch.symbolsOf after)) ∧
      (∀ tabs names other output, Frames tabs names output → Frames tabs other output →
        names = other) ∧
      ∀ names other output, FramesDump names output → FramesDump other output →
        names = other := by
  refine ⟨?_, ?_, fun _ _ _ _ _ _ ↦ exists_framesBatch hformat,
    fun _ _ _ _ hprovides ↦ hprovides.exists_leaves, ?_, fun _ _ _ _ ↦ Frames.names_eq,
    fun _ _ _ ↦ FramesDump.names_eq⟩
  · intro names
    refine ⟨renderLiterals .text names, ?_, frames_renderLiterals names⟩
    rw [Command.run, hformat]
  · intro names h
    obtain ⟨start, ids, after, reports, hreported⟩ := h.exists_reported
    have hframes : Frames 2 (reports.map SymbolReport.text) (renderSymbols .text reports) :=
      frames_renderSymbols fun report hmem ↦
        congrArg SymbolReport.display (hreported.report_eq report hmem).2
    rw [hreported.texts_eq] at hframes
    refine ⟨renderSymbols .text reports, ?_, hframes⟩
    rw [Command.run, hformat, hreported.internNames_eq]
    rfl
  · intro σ source document h hopens
    obtain ⟨start, ids, after, reports, hreported⟩ := h.exists_reported
    exact ⟨ids, after, reports, hopens.leaves rfl hreported, hreported.internNames_eq,
      Batch.lists_of_textSet_eq hreported.wellFormed hreported.textSet_eq hreported.report_eq⟩

/-- A batch of two workers, one of which takes over the last name, and both of which search the same
text before either publishes it. -/
def twoWorkers : Batch.Source FileTree where
  host := { FileTree.host (some "a\tb\nfoo=\na\tb\n".toList) with
    startWorkers := fun _ ↦ pure (.ok
      [.steal 0 1, .work 0, .work 1, .work 0, .work 1, .work 0, .work 1, .work 0, .work 1]) }
  system := ⟨[], []⟩
  file := ['-']

/-- Names that hold a tab, a line feed and nothing at all, and a batch with two lines alike, which
two workers intern at a time and one worker in order. -/
theorem default_frames_output : ∃ interned ids after summary,
    (Command.intern ["a\tb".toList, [], "=\n".toList, "foo=".toList] none).run
        (FileTree.host none) ⟨⟨8⟩, [], none, none⟩ (.default ⟨8⟩) = pure (.ok interned) ∧
      Frames 2 ["a\tb".toList, [], "=\n".toList, "foo=".toList] interned ∧
      ¬ Frames 2 ["a".toList, "b".toList, [], "=\n".toList, "foo=".toList] interned ∧
      twoWorkers.Leaves ⟨⟨8⟩, [], none, none⟩ (.default ⟨8⟩) 2 "a\tb\nfoo=\na\tb\n".toList ids
        after ∧
      FramesBatch twoWorkers ⟨⟨8⟩, [], none, none⟩ (.default ⟨8⟩) (some 2) none after summary ∧
      (Batch.symbolsOf after).map SymbolReport.text =
        ["a\tb".toList, "foo".toList, "foo=".toList] ∧
      ¬ FramesDump ["a\tb".toList, "foo=".toList] (summary.render .text 0) ∧
      ∃ ids' after' reports,
        twoWorkers.Leaves ⟨⟨8⟩, [], none, none⟩ (.default ⟨8⟩) 1 "a\tb\nfoo=\na\tb\n".toList ids'
          after' ∧
        internNames (.default ⟨8⟩) ⟨⟨8⟩, [], none, none⟩
          ["a\tb".toList, "foo=".toList, "a\tb".toList] = .ok reports ∧
        Batch.Lists ["a\tb".toList, "foo=".toList, "a\tb".toList] reports
          (Batch.symbolsOf after') := by
  have hnames : Batch.names "a\tb\nfoo=\na\tb\n".toList =
      ["a\tb".toList, "foo=".toList, "a\tb".toList] := by
    decide +kernel
  have hopens (jobs : UInt64) : twoWorkers.Opens jobs "a\tb\nfoo=\na\tb\n".toList :=
    ⟨rfl, _, rfl⟩
  obtain ⟨-, hintern, hbatch, hleave, hsingle, hunique, hdump⟩ :=
    @frames_output ⟨⟨8⟩, [], none, none⟩ (.default ⟨8⟩) none _ _ (FileTree.host none) rfl
  obtain ⟨interned, hrun, hframes⟩ := hintern ["a\tb".toList, [], "=\n".toList, "foo=".toList]
    ⟨by decide +kernel, by decide +kernel⟩
  obtain ⟨ids, after, hleaves⟩ := hleave _ twoWorkers 2 _
    ⟨by decide +kernel, by decide +kernel⟩ (hopens 2) (by decide)
  obtain ⟨summary, hsummary⟩ := hbatch _ twoWorkers (some 2) _ ids after hleaves
  have hsingle := hsingle _ twoWorkers _ ⟨by decide +kernel, by decide +kernel⟩ (hopens 1)
  rw [hnames] at hsingle
  have htexts : (Batch.symbolsOf after).map SymbolReport.text =
      ["a\tb".toList, "foo".toList, "foo=".toList] := by
    obtain ⟨-, -, start, schedule, hstart, hschedule, htogether⟩ := hleaves
    obtain ⟨-, rfl⟩ := Registry.create_eq_ok_iff.mp hstart
    obtain rfl := Except.ok.inj hschedule
    have hleft := congrArg (fun outcome ↦ outcome.toOption.map fun left ↦
      (Batch.symbolsOf left.2).map SymbolReport.text) htogether
    exact Option.some.inj (hleft.symm.trans (by decide +kernel))
  refine ⟨interned, ids, after, summary, hrun, hframes, fun hother ↦ ?_, hleaves, hsummary,
    htexts, fun hother ↦ ?_, hsingle⟩
  · exact absurd (hunique _ _ _ _ hframes hother) (by decide)
  · have hsame := hdump _ _ _ (hsummary.frames 0) hother
    rw [htexts] at hsame
    exact absurd hsame (by decide)

end Commands

end Interning
