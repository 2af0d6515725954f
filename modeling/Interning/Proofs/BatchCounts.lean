import Interning.Proofs.BatchRuns
import Interning.Proofs.NameReports
import Interning.Proofs.Schedules

/-!
# What a batch reports

A batch interns the names of a document and reports counters and counts, which the table has kept
while the names came in. All of them can be told from the names alone. `Batch.Tallies` gives them:
the records are what the names need besides the operators, every record is a miss, and the hits are
the rest of the names and of the internings of names before setters' signs. `Batch.Lists` says what
a dump holds: the records once each, by increasing identifiers, as an interning of the same names
reports them.

The closed forms read a list of names as a set and by its length, so no order of the names matters
(`Batch.Tallies.counts_eq`), although the identifiers in the dump depend on it.
-/

set_option autoImplicit false
set_option relaxedAutoImplicit false

namespace Interning

namespace Table

/-- The records outside the operators' range are those of the texts that are no operators. -/
theorem WellFormed.isOperator_eq_false_iff {floor : UInt64} {table : Table}
    (h : table.WellFormed floor) {record : Record} (hrecord : record ∈ table.records) :
    record.id.isOperator = false ↔ classify record.text ≠ .operator := by
  rw [← h.scope_eq (h.lookup_of_mem hrecord)]
  exact ⟨SymbolId.scope_ne_operator_of_not_isOperator, SymbolId.isOperator_eq_false_of_scope⟩

theorem WellFormed.mem_dynamic_texts_iff {floor : UInt64} {table : Table}
    (h : table.WellFormed floor) {text : Text} :
    text ∈ (table.records.filter fun record ↦ !record.id.isOperator).map Record.text ↔
      text ∈ table.texts ∧ classify text ≠ .operator := by
  rw [texts, List.mem_map, List.mem_map]
  constructor
  · rintro ⟨record, hmem, rfl⟩
    obtain ⟨hrecord, hdynamic⟩ := List.mem_filter.mp hmem
    have hscope := (h.isOperator_eq_false_iff hrecord).mp (by simpa using hdynamic)
    exact ⟨⟨record, hrecord, rfl⟩, hscope⟩
  · rintro ⟨⟨record, hrecord, rfl⟩, hscope⟩
    refine ⟨record, List.mem_filter.mpr ⟨hrecord, ?_⟩, rfl⟩
    simpa using (h.isOperator_eq_false_iff hrecord).mpr hscope

/-- The records stand in the order of their identifiers. -/
theorem pairwise_records (table : Table) :
    table.records.Pairwise fun first second ↦ first.id.raw < second.id.raw := by
  rw [records, List.pairwise_map]
  refine Std.TreeMap.ordered_keys_toList.imp ?_
  intro first second hlt
  exact compareOfLessAndEq_eq_lt.mp hlt

end Table

namespace Batch

variable {names : List Text} {text : Text}

/-! ### The sets of names -/

/-- Of a scope other than the operators', the recorded texts are those that the names add. -/
theorem filter_union_required {scope : Scope} (hscope : scope ≠ .operator) :
    (Token.texts ∪ required names).filter (classify · = scope) =
      (recorded names).filter (classify · = scope) := by
  ext text
  simp only [Finset.mem_filter, Finset.mem_union, Token.mem_texts_iff, mem_recorded_iff]
  constructor
  · rintro ⟨hoperator | hrequired, rfl⟩
    · exact absurd hoperator hscope
    · exact ⟨⟨hrequired, hscope⟩, rfl⟩
  · rintro ⟨⟨hrequired, -⟩, rfl⟩
    exact ⟨.inr hrequired, rfl⟩

/-- The names before the signs of setters are no setters themselves. -/
theorem filter_recorded_setter :
    (recorded names).filter (classify · = .setter) = setters names := by
  ext text
  simp only [setters, Finset.mem_filter, mem_recorded_iff, List.mem_toFinset]
  constructor
  · rintro ⟨⟨hrequired, -⟩, hscope⟩
    rcases mem_or_isPlain_of_mem_required hrequired with hname | hplain
    · exact ⟨hname, hscope⟩
    · exact absurd hscope hplain.2
  · rintro ⟨hname, hscope⟩
    exact ⟨⟨mem_required_iff.mpr (.inl hname), by simp [hscope]⟩, hscope⟩

theorem card_union_required :
    (Token.texts ∪ required names).card = 31 + (recorded names).card := by
  rw [← Finset.union_sdiff_self_eq_union, Finset.card_union_of_disjoint Finset.disjoint_sdiff,
    Token.card_texts, recorded]

theorem setters_eq_of_perm {other : List Text} (h : other.Perm names) :
    setters other = setters names := by
  rw [setters, setters, List.toFinset_eq_of_perm _ _ h]

theorem recorded_eq_of_perm {other : List Text} (h : other.Perm names) :
    recorded other = recorded names := by
  rw [recorded, recorded, required, required, setters_eq_of_perm h, List.toFinset_eq_of_perm _ _ h]

/-! ### Distinct identifiers -/

theorem countDistinct_eq_card (ids : List SymbolId) : countDistinct ids = ids.toFinset.card := by
  have hnodup : (Std.TreeSet.ofList ids).toList.Nodup := by
    refine Std.TreeSet.distinct_toList.imp ?_
    rintro id _ hne rfl
    exact hne Std.ReflCmp.compare_self
  have hmem : (Std.TreeSet.ofList ids).toList.toFinset = ids.toFinset := by
    ext id
    simp [Std.TreeSet.mem_toList, Std.TreeSet.mem_ofList]
  rw [countDistinct, ← Std.TreeSet.length_toList, ← List.toFinset_card_of_nodup hnodup, hmem]

/-- Distinct names have distinct identifiers. -/
theorem countDistinct_eq_of_map_lookup {floor : UInt64} {table : Table}
    (h : table.WellFormed floor) {ids : List SymbolId}
    (hids : names.map table.lookup = ids.map some) :
    countDistinct ids = names.toFinset.card := by
  have hinjective : Set.InjOn table.lookup names.toFinset := by
    intro text htext other _ heq
    have hmem : table.lookup text ∈ ids.map some :=
      hids ▸ List.mem_map_of_mem (List.mem_toFinset.mp htext)
    obtain ⟨id, -, hid⟩ := List.mem_map.mp hmem
    exact h.text_eq_of_lookup hid.symm (heq ▸ hid.symm)
  have himage : ids.toFinset.image some = names.toFinset.image table.lookup := by
    ext found
    simp only [Finset.mem_image, List.mem_toFinset, ← List.mem_map, hids]
  rw [countDistinct_eq_card, ← Finset.card_image_of_injOn hinjective, ← himage,
    Finset.card_image_of_injective ids.toFinset (Option.some_injective SymbolId)]

/-! ### The summary -/

/-- A summary counts what can be read off the names. -/
structure Tallies (names : List Text) (summary : BatchSummary) : Prop where
  names_eq : summary.names = names.length
  unique_eq : summary.unique = names.toFinset.card
  count_eq : summary.stats.count = 31 + (recorded names).card
  misses_eq : summary.stats.counters.misses = (recorded names).card
  hits_eq : summary.stats.counters.hits + (recorded names).card =
    names.length + (setters names).card
  races_eq : summary.stats.counters.races = 0
  perScope_eq : ∀ scope, scope ≠ .operator →
    summary.stats.perScope scope = ((recorded names).filter (classify · = scope)).card
  perScope_operator : summary.stats.perScope .operator = 31

/-- Names in another order have the same tallies. -/
theorem Tallies.counts_eq {other : List Text} {summary summary' : BatchSummary}
    (h : Tallies names summary) (hother : Tallies other summary') (hperm : other.Perm names)
    (hjobs : summary'.jobs = summary.jobs) (milliseconds : Nat) :
    summary'.counts milliseconds = summary.counts milliseconds ∧
      summary'.stats.histogram = summary.stats.histogram := by
  have hrecorded := recorded_eq_of_perm hperm
  have hhits : summary'.stats.counters.hits = summary.stats.counters.hits := by
    have hhits := h.hits_eq
    have hhits' := hother.hits_eq
    rw [hrecorded, setters_eq_of_perm hperm, hperm.length_eq, ← hhits] at hhits'
    exact Nat.add_right_cancel hhits'
  have hscope : summary'.stats.perScope = summary.stats.perScope := by
    funext scope
    by_cases hoperator : scope = .operator
    · rw [hoperator, h.perScope_operator, hother.perScope_operator]
    · rw [h.perScope_eq scope hoperator, hother.perScope_eq scope hoperator, hrecorded]
  constructor
  · rw [BatchSummary.counts, BatchSummary.counts, hother.names_eq, hother.unique_eq,
      hother.count_eq, hother.misses_eq, hother.races_eq, h.names_eq, h.unique_eq, h.count_eq,
      h.misses_eq, h.races_eq, hhits, hjobs, hrecorded, hperm.length_eq,
      List.toFinset_eq_of_perm _ _ hperm]
  · rw [Stats.histogram, Stats.histogram, hscope]

/-- Symbols are the records of names, as the reports of the names show them. -/
structure Lists (names : List Text) (reports symbols : List SymbolReport) : Prop where
  /-- Every text that the names add has one symbol, and nothing else has any. -/
  nodup : (symbols.map SymbolReport.text).Nodup
  mem_iff : ∀ text, text ∈ symbols.map SymbolReport.text ↔ text ∈ recorded names
  increasing : symbols.Pairwise fun first second ↦ first.id.raw < second.id.raw
  eq_report : ∀ report ∈ reports, ∀ symbol ∈ symbols, symbol.text = report.text → symbol = report

/-- A run that has interned all names in a new registry that counts is summed up by the names. -/
theorem tallies_of_internsAll {config : RegistryConfig} {start after : Registry}
    (hstart : Registry.create config = .ok start) (hstats : config.statsEnabled = true)
    {ids : List SymbolId} (hinterns : start.InternsAll names ids after) (jobs : Nat)
    (symbols : Option (List SymbolReport)) :
    Tallies names ⟨names.length, countDistinct ids, after.stats, jobs, symbols⟩ := by
  have htable := (Registry.wellFormed_of_create hstart).2
  obtain ⟨hcounting, hcounters⟩ := Registry.counters_of_create hstart
  obtain ⟨hsize, hscopes⟩ := Registry.size_of_create hstart
  have hafter := (hinterns.grows htable).wellFormed
  have haccounts := hinterns.accounts htable (hcounting.trans hstats)
  have hset := hinterns.textSet_eq htable
  rw [Registry.textSet_of_create hstart] at hset
  have hsize' : after.table.size = 31 + (recorded names).card := by
    rw [← hafter.card_textSet, hset, card_union_required]
  have hscopes' (scope : Scope) (hscope : scope ≠ .operator) :
      after.table.countScope scope = ((recorded names).filter (classify · = scope)).card := by
    rw [← hafter.card_filter_textSet, hset, filter_union_required hscope]
  have hsetters := hscopes' .setter (by simp)
  rw [filter_recorded_setter] at hsetters
  have hmisses : after.table.counters.misses = (recorded names).card := by
    have hrecords := haccounts.misses_eq
    simp only [hcounters, hsize, hsize'] at hrecords
    omega
  have hhits : after.table.counters.hits + (recorded names).card =
      names.length + (setters names).card := by
    have htotal := haccounts.total_eq
    simp only [hcounters, hscopes .setter (by simp), hsetters] at htotal
    omega
  constructor
  case names_eq => rfl
  case unique_eq => exact countDistinct_eq_of_map_lookup hafter (hinterns.map_lookup htable)
  case count_eq => exact hsize'
  case misses_eq => exact hmisses
  case hits_eq => exact hhits
  case races_eq => exact haccounts.races_eq.trans (congrArg Counters.races hcounters)
  case perScope_eq => exact hscopes'
  case perScope_operator => exact hafter.countScope_operator

/-! ### The dump -/

/-- The dump of a table in which names and operators are recorded. -/
theorem lists_of_textSet_eq {floor : UInt64} {table : Table} (h : table.WellFormed floor)
    (hset : table.textSet = Token.texts ∪ required names) {reports : List SymbolReport}
    (hreports : ∀ report ∈ reports, table.lookup report.text = some report.id ∧
      report = .new report.id report.text (Literal.literal report.text)) :
    Lists names reports
      ((table.records.filter fun record ↦ !record.id.isOperator).map .ofRecord) := by
  have htexts : ((table.records.filter fun record ↦ !record.id.isOperator).map
      SymbolReport.ofRecord).map SymbolReport.text =
        (table.records.filter fun record ↦ !record.id.isOperator).map Record.text := by
    rw [List.map_map]
    rfl
  constructor
  case nodup =>
    rw [htexts]
    exact h.nodup_texts.sublist (List.filter_sublist.map Record.text)
  case mem_iff =>
    intro text
    rw [htexts, h.mem_dynamic_texts_iff, mem_recorded_iff, ← List.mem_toFinset, ← Table.textSet,
      hset, Finset.mem_union, Token.mem_texts_iff]
    tauto
  case increasing =>
    rw [List.pairwise_map]
    exact table.pairwise_records.filter _
  case eq_report =>
    intro report hreport symbol hsymbol htext
    obtain ⟨record, hmem, rfl⟩ := List.mem_map.mp hsymbol
    have hlookup := h.lookup_of_mem (List.mem_filter.mp hmem).1
    obtain ⟨hid, heq⟩ := hreports report hreport
    rw [← show record.text = report.text from htext] at hid heq
    rw [hlookup, Option.some.injEq] at hid
    rw [heq, SymbolReport.ofRecord, hid]

/-! ### The page -/

/-- What a batch writes under its counts, the numbers of records by scope and its symbols. In text
the scopes without records are left out. -/
def page (format : OutputFormat) (counts : List (String × Nat)) (scopes : List (Scope × Nat))
    (symbols : Option (List SymbolReport)) : Text :=
  match format with
  | .text =>
    (counts.flatMap fun (name, number) ↦ line [name.toList, Numeral.decimal number]) ++
      ((scopes.filter fun (_, number) ↦ number ≠ 0).flatMap fun (scope, number) ↦
        line [("scope." ++ scope.name).toList, Numeral.decimal number]) ++
      renderReports .text (symbols.getD [])
  | .json =>
    (Json.object <|
      (counts.map fun (name, number) ↦ (name, Json.number number)) ++
        [("scopes", .array (scopes.map fun (scope, number) ↦
          .object [("scope", .string scope.name.toList), ("count", .number number)]))] ++
        symbols.toList.map fun reports ↦ ("symbols", .array (reports.map fun report ↦
          .object [("id", .number report.id.raw.toNat),
            ("scope", .string report.scope.name.toList), ("text", .string report.text),
            ("display", .string report.display)]))).document

/-- The lines of scopes leave out those without records. -/
theorem flatMap_countLine_scopes (scopes : List (Scope × Nat)) :
    (scopes.filterMap fun (scope, number) ↦
        if number = 0 then none else some ("scope." ++ scope.name, number)).flatMap
      BatchSummary.countLine =
    (scopes.filter fun (_, number) ↦ number ≠ 0).flatMap fun (scope, number) ↦
      line [("scope." ++ scope.name).toList, Numeral.decimal number] := by
  induction scopes with
  | nil => rfl
  | cons entry scopes ih =>
    obtain ⟨scope, number⟩ := entry
    by_cases hzero : number = 0
    · simpa [hzero] using ih
    · simpa [hzero, BatchSummary.countLine] using ih

/-- A summary is written as such a page. -/
theorem render_eq_page (format : OutputFormat) (summary : BatchSummary) (milliseconds : Nat) :
    summary.render format milliseconds =
      page format (summary.counts milliseconds) summary.stats.histogram summary.symbols := by
  cases format with
  | text =>
    rw [BatchSummary.render, page, List.flatMap_append, flatMap_countLine_scopes]
    rfl
  | json =>
    rw [BatchSummary.render, page, List.append_assoc]
    rfl

/-- The counts of names that a single worker interns in their order. -/
def countsOf (names : List Text) (milliseconds : Nat) : List (String × Nat) :=
  [("names", names.length), ("unique", names.toFinset.card),
    ("records", 31 + (recorded names).card),
    ("hits", names.length + (setters names).card - (recorded names).card),
    ("misses", (recorded names).card), ("races", 0), ("jobs", 1), ("elapsed_ms", milliseconds)]

/-- The numbers of records by scope, when names have been interned. -/
def scopesOf (names : List Text) : List (Scope × Nat) :=
  ([.localName, .instanceVariable, .globalVariable, .setter, .constant, .classVariable,
    .junk].map fun scope ↦ (scope, ((recorded names).filter (classify · = scope)).card)) ++
    [(.operator, 31)]

/-- Where the counts are those of the names, so is the page. -/
theorem Tallies.render_eq {summary : BatchSummary} (h : Tallies names summary)
    (hjobs : summary.jobs = 1) (format : OutputFormat) (milliseconds : Nat) :
    summary.render format milliseconds =
      page format (countsOf names milliseconds) (scopesOf names) summary.symbols := by
  have hhits : summary.stats.counters.hits =
      names.length + (setters names).card - (recorded names).card :=
    Nat.eq_sub_of_add_eq h.hits_eq
  have hcounts : summary.counts milliseconds = countsOf names milliseconds := by
    rw [BatchSummary.counts, countsOf, h.names_eq, h.unique_eq, h.count_eq, hhits, h.misses_eq,
      h.races_eq, hjobs]
  have hscopes : summary.stats.histogram = scopesOf names := by
    simp [Stats.histogram, Scope.all, scopesOf, h.perScope_eq, h.perScope_operator]
  rw [render_eq_page, hcounts, hscopes]

/-! ### The command -/

/-- A worker that is alone leaves the registry behind that has interned all names in order. -/
theorem Source.Opens.leaves {σ : Type} {source : Source σ} {jobs : UInt64} {document : Text}
    (hopens : source.Opens jobs document) (hjobs : jobs = 1) {around : Surroundings}
    {settings : Settings} {start after : Registry} {ids : List SymbolId}
    {reports : List SymbolReport}
    (hreported : settings.Reported around (Batch.names document) start ids after reports) :
    source.Leaves around settings jobs document ids after := by
  obtain ⟨hdocument, schedule, hschedule⟩ := hopens
  subst hjobs
  refine ⟨hdocument, by decide, start, schedule, hreported.create_eq, hschedule, ?_⟩
  change start.internTogether 1 schedule (Batch.names document) = _
  rw [Registry.internTogether_one, Registry.internOnto, hreported.internsAll.internAll_eq]
  rfl

/-- What the batch command answers on a source that holds names, and how its dump compares with
the interning of the same names. -/
structure Answers {σ : Type} (source : Source σ) (around : Surroundings) (settings : Settings)
    (jobs : Option UInt64) (format : Option OutputFormat) (dump : Bool) (names : List Text)
    (summary : BatchSummary) : Prop where
  run_eq : source.run around settings jobs format dump =
    (.ok (summary.render (format.getD settings.format)
      (source.elapsed (jobs.getD settings.jobs))), (source.clockAfter (jobs.getD settings.jobs)).2)
  jobs_eq : summary.jobs = 1
  tallies : Tallies names summary
  render_eq : ∀ format milliseconds, summary.render format milliseconds =
    page format (countsOf names milliseconds) (scopesOf names) summary.symbols
  symbols_eq_none : dump = false → summary.symbols = none
  lists : dump = true → ∃ symbols reports, summary.symbols = some symbols ∧
    internNames settings around names = .ok reports ∧ reports.map SymbolReport.text = names ∧
      Lists names reports symbols

/-- Names are interned in their order, are counted, and find a sequence number for every plain name
that they need. -/
structure Serves (around : Surroundings) (settings : Settings) (jobs : Option UInt64)
    (names : List Text) : Prop where
  jobs_eq : jobs.getD settings.jobs = 1
  validate_eq : (settings.registryConfig around.machine around.environment).validate = .ok ()
  statsEnabled_eq :
    (settings.registryConfig around.machine around.environment).statsEnabled = true
  room : (settings.registryConfig around.machine around.environment).sequenceFloor.toNat +
    ((recorded names).filter (classify · ≠ .setter)).card ≤ 2 ^ 61 - 1

theorem Serves.of_perm {around : Surroundings} {settings : Settings} {jobs : Option UInt64}
    {other : List Text} (h : Serves around settings jobs names) (hperm : other.Perm names) :
    Serves around settings jobs other :=
  ⟨h.jobs_eq, h.validate_eq, h.statsEnabled_eq, recorded_eq_of_perm hperm ▸ h.room⟩

section Answers

variable {σ : Type} {source : Source σ} {around : Surroundings} {settings : Settings}
  {jobs : Option UInt64} {document : Text}

theorem Serves.exists_answers (h : Serves around settings jobs (Batch.names document))
    (hopens : source.Opens (jobs.getD settings.jobs) document) (format : Option OutputFormat)
    (dump : Bool) :
    ∃ summary, Answers source around settings jobs format dump (Batch.names document) summary := by
  have haccommodates : settings.Accommodates around (Batch.names document) :=
    ⟨h.validate_eq, h.room⟩
  obtain ⟨start, ids, after, reports, hreported⟩ := haccommodates.exists_reported
  have hleaves := hopens.leaves h.jobs_eq hreported
  have hone : (jobs.getD settings.jobs).toNat = 1 := by
    rw [h.jobs_eq]
    rfl
  have htallies :=
    tallies_of_internsAll hreported.create_eq h.statsEnabled_eq hreported.internsAll
  refine ⟨summarize after (Batch.names document).length (countDistinct ids)
    (jobs.getD settings.jobs).toNat dump, ?_⟩
  constructor
  case run_eq => exact hleaves.run_eq format dump
  case jobs_eq => exact hone
  case tallies => exact htallies _ _
  case render_eq => exact (htallies _ _).render_eq hone
  case symbols_eq_none =>
    rintro rfl
    rfl
  case lists =>
    rintro rfl
    exact ⟨_, reports, rfl, hreported.internNames_eq, hreported.texts_eq,
      lists_of_textSet_eq hreported.wellFormed hreported.textSet_eq hreported.report_eq⟩

/-- A batch in file order, in a registry that counts and has a number for every plain name that is
needed, answers what can be read off its names; and with the lines in another order it answers the
same counts, on whatever system. -/
theorem exists_answers_perm (hopens : source.Opens (jobs.getD settings.jobs) document)
    (hserves : Serves around settings jobs (Batch.names document)) (format : Option OutputFormat)
    (dump : Bool) :
    ∃ summary,
      Answers source around settings jobs format dump (Batch.names document) summary ∧
        ∀ (τ : Type) (other : Source τ) (document' : Text),
          other.Opens (jobs.getD settings.jobs) document' →
            (Text.lines document').Perm (Text.lines document) →
              ∃ summary',
                Answers other around settings jobs format dump (Batch.names document') summary' ∧
                  (∀ milliseconds, summary'.counts milliseconds = summary.counts milliseconds) ∧
                    summary'.stats.histogram = summary.stats.histogram := by
  obtain ⟨summary, hanswers⟩ := hserves.exists_answers hopens format dump
  refine ⟨summary, hanswers, fun τ other document' hopens' hperm ↦ ?_⟩
  have hnames : (Batch.names document').Perm (Batch.names document) := hperm.filter _
  obtain ⟨summary', hanswers'⟩ := (hserves.of_perm hnames).exists_answers hopens' format dump
  have hcounts := hanswers.tallies.counts_eq hanswers'.tallies hnames
    (hanswers'.jobs_eq.trans hanswers.jobs_eq.symm)
  exact ⟨summary', hanswers', fun milliseconds ↦ (hcounts milliseconds).1, (hcounts 0).2⟩

end Answers

/-- Six names with an operator and a setter among them, the setter once after its name and once
before it. -/
theorem default_answers_perm : ∃ summary summary',
    Answers (.ofTree ⟨[], []⟩ (some "foo\nbar\n+\nfoo\n\nBaz\nbar=\n".toList) ['-'])
        ⟨⟨8⟩, [], none, none⟩ (.default ⟨8⟩) (some 1) none true
        ["foo".toList, "bar".toList, ['+'], "foo".toList, "Baz".toList, "bar=".toList] summary ∧
      Answers (.ofTree ⟨[], []⟩ (some "bar=\nBaz\nfoo\n+\n\nfoo\nbar".toList) ['-'])
          ⟨⟨8⟩, [], none, none⟩ (.default ⟨8⟩) (some 1) none true
          ["bar=".toList, "Baz".toList, "foo".toList, ['+'], "foo".toList, "bar".toList] summary' ∧
        summary.stats.counters.misses = 4 ∧ summary.stats.counters.hits = 3 ∧
          summary'.counts 0 = summary.counts 0 := by
  have hnames : Batch.names "foo\nbar\n+\nfoo\n\nBaz\nbar=\n".toList =
      ["foo".toList, "bar".toList, ['+'], "foo".toList, "Baz".toList, "bar=".toList] := by
    decide +kernel
  have hnames' : Batch.names "bar=\nBaz\nfoo\n+\n\nfoo\nbar".toList =
      ["bar=".toList, "Baz".toList, "foo".toList, ['+'], "foo".toList, "bar".toList] := by
    decide +kernel
  have hserves : Serves ⟨⟨8⟩, [], none, none⟩ (.default ⟨8⟩) (some 1)
      (Batch.names "foo\nbar\n+\nfoo\n\nBaz\nbar=\n".toList) :=
    ⟨rfl, by decide +kernel, by decide +kernel, by decide +kernel⟩
  have hopens (document : Text) :
      (Source.ofTree ⟨[], []⟩ (some document) ['-']).Opens 1 document :=
    Source.opens_ofTree rfl 1
  obtain ⟨summary, hanswers, hother⟩ := exists_answers_perm (hopens _) hserves none true
  obtain ⟨summary', hanswers', hcounts, -⟩ := hother _ _ _
    (hopens "bar=\nBaz\nfoo\n+\n\nfoo\nbar".toList) (by decide +kernel)
  rw [hnames] at hanswers
  rw [hnames'] at hanswers'
  have hrecorded : (recorded ["foo".toList, "bar".toList, ['+'], "foo".toList, "Baz".toList,
      "bar=".toList]).card = 4 := by
    decide +kernel
  have hsetters : (setters ["foo".toList, "bar".toList, ['+'], "foo".toList, "Baz".toList,
      "bar=".toList]).card = 1 := by
    decide +kernel
  have hmisses := hanswers.tallies.misses_eq
  have hhits := hanswers.tallies.hits_eq
  rw [hrecorded] at hmisses
  rw [hrecorded, hsetters] at hhits
  exact ⟨summary, summary', hanswers, hanswers', hmisses, Nat.add_right_cancel hhits, hcounts 0⟩

end Batch

end Interning
