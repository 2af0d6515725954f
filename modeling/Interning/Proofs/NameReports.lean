import Interning.Proofs.InternedLists

/-!
# The commands agree on a name

Three commands report on names. Two of them read the scope and the literal off the name. The third
interns the names in turn: it takes the scope from the tag of the identifier, and writes the literal
of the text that the identifier resolves to, in a registry that holds whatever names came before.

`Agree` says that the three answers, in either output format, are views of one list of reports, with
one report for each name and one identifier for each different name: the entries that are written for
a report show its identifier, its scope and its literal (`renderReports`), its scope and its name
(`renderTags`), or its literal alone (`renderDisplays`).
`Settings.Accommodates.exists_agree` proves it wherever there are sequence numbers for the names. An
identifier keeps its name while the remaining names are interned, so the reports can be compared in
the registry at the end (`Settings.Reported`), where identifiers carry the scopes of their names and
distinct names have distinct identifiers.
-/

set_option autoImplicit false
set_option relaxedAutoImplicit false

namespace Interning

/-! ### Views of reports -/

/-- Entries in an output format: a line of fields for each in text, an array of objects in JSON. -/
def renderEntries {α : Type} (fields : α → List Text) (members : α → List (String × Json))
    (format : OutputFormat) (entries : List α) : Text :=
  match format with
  | .text => entries.flatMap fun entry ↦ line (fields entry)
  | .json => (Json.array (entries.map fun entry ↦ .object (members entry))).document

variable {names : List Text} {reports : List SymbolReport}

/-- Entries that are written alike have the same rendering. -/
theorem renderEntries_map {α β : Type} {entry : β → α} {fields : α → List Text}
    {fields' : β → List Text} {members : α → List (String × Json)}
    {members' : β → List (String × Json)} {entries : List β}
    (hfields : ∀ other ∈ entries, fields (entry other) = fields' other)
    (hmembers : ∀ other ∈ entries, members (entry other) = members' other)
    (format : OutputFormat) :
    renderEntries fields members format (entries.map entry) =
      renderEntries fields' members' format entries := by
  cases format with
  | text =>
    rw [renderEntries, renderEntries, List.flatMap_map]
    exact List.flatMap_congr fun other hother ↦ congrArg line (hfields other hother)
  | json =>
    rw [renderEntries, renderEntries, List.map_map]
    refine congrArg (fun items ↦ (Json.array items).document) (List.map_congr_left ?_)
    intro other hother
    exact congrArg Json.object (hmembers other hother)

/-- The identifiers that reports show, each with the scope and the literal beside it. -/
def renderReports (format : OutputFormat) (reports : List SymbolReport) : Text :=
  renderEntries
    (fun report ↦ [Numeral.decimal report.id.raw.toNat, report.scope.name.toList, report.display])
    (fun report ↦ [("id", .number report.id.raw.toNat), ("scope", .string report.scope.name.toList),
      ("text", .string report.text), ("display", .string report.display)]) format reports

/-- The scopes that reports show, each with its name. -/
def renderTags (format : OutputFormat) (reports : List SymbolReport) : Text :=
  renderEntries (fun report ↦ [report.scope.name.toList, report.text])
    (fun report ↦ [("text", .string report.text), ("scope", .string report.scope.name.toList)])
    format reports

/-- The literals that reports show, each with its name. -/
def renderDisplays (format : OutputFormat) (reports : List SymbolReport) : Text :=
  renderEntries (fun report ↦ [report.display])
    (fun report ↦ [("text", .string report.text), ("display", .string report.display),
      ("escaped", .boolean (!Literal.isBare report.text))]) format reports

theorem renderSymbols_eq_renderReports (format : OutputFormat) (reports : List SymbolReport) :
    renderSymbols format reports = renderReports format reports := by
  cases format <;> rfl

/-- Where reports show the scopes of their names, these are the scopes of the names. -/
theorem renderScopes_eq_renderTags
    (hscopes : ∀ report ∈ reports, report.scope = classify report.text)
    (format : OutputFormat) :
    renderScopes format (reports.map SymbolReport.text) = renderTags format reports := by
  have hentries : renderScopes format (reports.map SymbolReport.text) =
      renderEntries (fun name ↦ [(classify name).name.toList, name])
        (fun name ↦ [("text", .string name), ("scope", .string (classify name).name.toList)])
        format (reports.map SymbolReport.text) := by
    cases format <;> rfl
  rw [hentries, renderTags]
  refine renderEntries_map ?_ ?_ format <;> intro report hreport <;>
    simp only [hscopes report hreport]

/-- Where reports show the literals of their names, these are the literals of the names. -/
theorem renderLiterals_eq_renderDisplays
    (hdisplays : ∀ report ∈ reports, report.display = Literal.literal report.text)
    (format : OutputFormat) :
    renderLiterals format (reports.map SymbolReport.text) = renderDisplays format reports := by
  have hentries : renderLiterals format (reports.map SymbolReport.text) =
      renderEntries (fun name ↦ [Literal.literal name])
        (fun name ↦ [("text", .string name), ("display", .string (Literal.literal name)),
          ("escaped", .boolean (!Literal.isBare name))])
        format (reports.map SymbolReport.text) := by
    cases format <;> rfl
  rw [hentries, renderDisplays]
  refine renderEntries_map ?_ ?_ format <;> intro report hreport <;>
    simp only [hdisplays report hreport]

/-! ### Agreement -/

/-- The answers of the per-name commands are views of one list of reports, which has a report for
each name in order. -/
structure Agree {m : Type → Type} [Monad m] (host : Host m) (around : Surroundings)
    (settings : Settings) (names : List Text) (reports : List SymbolReport) : Prop where
  texts_eq : reports.map SymbolReport.text = names
  scope_eq : ∀ report ∈ reports, report.scope = classify report.text
  tag_eq : ∀ report ∈ reports, report.id.scope = report.scope
  display_eq : ∀ report ∈ reports, report.display = Literal.literal report.text
  /-- Two reports have one identifier exactly where the names are equal. -/
  id_eq_iff : ∀ (i j : Nat) (first second : SymbolReport), reports[i]? = some first →
    reports[j]? = some second → (first.id = second.id ↔ names[i]? = names[j]?)
  run_intern_eq : ∀ format, (Command.intern names format).run host around settings =
    pure (.ok (renderReports (format.getD settings.format) reports))
  run_classify_eq : ∀ format, (Command.classify names format).run host around settings =
    pure (.ok (renderTags (format.getD settings.format) reports))
  run_inspect_eq : ∀ format, (Command.inspect names format).run host around settings =
    pure (.ok (renderDisplays (format.getD settings.format) reports))

/-- Reports have one identifier exactly where their texts are equal, if every text looks up to the
identifier of its report. -/
theorem SymbolReport.id_eq_iff {floor : UInt64} {table : Table} (h : table.WellFormed floor)
    {first second : SymbolReport} (hfirst : table.lookup first.text = some first.id)
    (hsecond : table.lookup second.text = some second.id) :
    first.id = second.id ↔ first.text = second.text := by
  constructor
  · intro hid
    exact h.text_eq_of_lookup hfirst (hid ▸ hsecond)
  · intro htext
    rw [htext, hsecond] at hfirst
    exact (Option.some.inj hfirst).symm

variable {around : Surroundings} {settings : Settings}

/-- On names that are accommodated the commands agree, whatever names come before a name: what is
recorded already changes neither its scope nor its literal. -/
theorem Settings.Accommodates.exists_agree {m : Type → Type} [Monad m] (host : Host m)
    (h : settings.Accommodates around names) :
    ∃ reports, Agree host around settings names reports := by
  obtain ⟨start, ids, after, reports, hreported⟩ := h.exists_reported
  have hafter := hreported.wellFormed
  have htexts := hreported.texts_eq
  have hreports := hreported.report_eq
  have htags : ∀ report ∈ reports, report.id.scope = report.scope :=
    fun report hmem ↦ (congrArg SymbolReport.scope (hreports report hmem).2).symm
  have hscopes : ∀ report ∈ reports, report.scope = classify report.text :=
    fun report hmem ↦ (htags report hmem).symm.trans (hafter.scope_eq (hreports report hmem).1)
  have hdisplays : ∀ report ∈ reports, report.display = Literal.literal report.text :=
    fun report hmem ↦ congrArg SymbolReport.display (hreports report hmem).2
  refine ⟨reports, ?_⟩
  constructor
  case texts_eq => exact htexts
  case scope_eq => exact hscopes
  case tag_eq => exact htags
  case display_eq => exact hdisplays
  case id_eq_iff =>
    intro i j first second hfirst hsecond
    rw [← htexts, List.getElem?_map, List.getElem?_map, hfirst, hsecond, Option.map_some,
      Option.map_some, Option.some.injEq]
    exact SymbolReport.id_eq_iff hafter (hreports first (List.mem_of_getElem? hfirst)).1
      (hreports second (List.mem_of_getElem? hsecond)).1
  case run_intern_eq =>
    intro format
    rw [Command.run, hreported.internNames_eq, ← renderSymbols_eq_renderReports]
    rfl
  case run_classify_eq =>
    intro format
    rw [Command.run, ← renderScopes_eq_renderTags hscopes, htexts]
  case run_inspect_eq =>
    intro format
    rw [Command.run, ← renderLiterals_eq_renderDisplays hdisplays, htexts]

/-- A setter comes before its name and again after it, with an operator in between. -/
theorem default_agree : ∃ reports first second,
    (Settings.default ⟨8⟩).Accommodates ⟨⟨8⟩, [], none, none⟩
        ["foo=".toList, "foo".toList, ['+'], "foo=".toList, "Foo".toList] ∧
      Agree (FileTree.host none) ⟨⟨8⟩, [], none, none⟩ (.default ⟨8⟩)
          ["foo=".toList, "foo".toList, ['+'], "foo=".toList, "Foo".toList] reports ∧
        reports[0]? = some first ∧ reports[3]? = some second ∧ first.id = second.id := by
  have haccommodates : (Settings.default ⟨8⟩).Accommodates ⟨⟨8⟩, [], none, none⟩
      ["foo=".toList, "foo".toList, ['+'], "foo=".toList, "Foo".toList] :=
    ⟨by decide +kernel, by decide +kernel⟩
  obtain ⟨reports, hagree⟩ := haccommodates.exists_agree (FileTree.host none)
  have hlength : reports.length = 5 := by
    rw [← List.length_map SymbolReport.text, hagree.texts_eq]
    rfl
  have hfirst : reports[0]? = some reports[0] := List.getElem?_eq_getElem _
  have hsecond : reports[3]? = some reports[3] := List.getElem?_eq_getElem _
  exact ⟨reports, _, _, haccommodates, hagree, hfirst, hsecond,
    (hagree.id_eq_iff 0 3 _ _ hfirst hsecond).mpr rfl⟩

end Interning
