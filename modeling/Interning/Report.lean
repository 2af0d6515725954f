import Interning.Json
import Interning.Registry
import Interning.Settings
/-!
What the commands report, as data and in both output formats. In text a report is a line of
fields between tabs; in JSON it is an object, and a list of reports an array.
-/

set_option autoImplicit false
set_option relaxedAutoImplicit false

namespace Interning

/-- Fields between tabs, closed by a line feed. -/
def line (fields : List Text) : Text :=
  ['\t'].intercalate fields ++ ['\n']

/-! ### Symbols -/

/-- A symbol with its scope and its literal. -/
structure SymbolReport where
  id : SymbolId
  scope : Scope
  text : Text
  display : Text
deriving DecidableEq

namespace SymbolReport

/-- The report of a symbol, with the scope that its identifier carries. -/
def new (id : SymbolId) (text display : Text) : SymbolReport :=
  ⟨id, id.scope, text, display⟩

/-- The report of a record. -/
def ofRecord (record : Record) : SymbolReport :=
  .new record.id record.text (Literal.literal record.text)

/-- The line of a symbol. -/
def toLine (report : SymbolReport) : Text :=
  line [Numeral.decimal report.id.raw.toNat, report.scope.name.toList, report.display]

/-- The object of a symbol. -/
def toJson (report : SymbolReport) : Json :=
  .object [("id", .number report.id.raw.toNat), ("scope", .string report.scope.name.toList),
    ("text", .string report.text), ("display", .string report.display)]

end SymbolReport

/-- Symbols in an output format. -/
def renderSymbols (format : OutputFormat) (reports : List SymbolReport) : Text :=
  match format with
  | .text => reports.flatMap SymbolReport.toLine
  | .json => (Json.array (reports.map SymbolReport.toJson)).document

/-! ### Names -/

/-- The literals of names in an output format. -/
def renderLiterals (format : OutputFormat) (names : List Text) : Text :=
  match format with
  | .text => names.flatMap fun name ↦ line [Literal.literal name]
  | .json =>
    (Json.array (names.map fun name ↦
      .object [("text", .string name), ("display", .string (Literal.literal name)),
        ("escaped", .boolean (!Literal.isBare name))])).document

/-- The scopes of names in an output format. -/
def renderScopes (format : OutputFormat) (names : List Text) : Text :=
  match format with
  | .text => names.flatMap fun name ↦ line [(classify name).name.toList, name]
  | .json =>
    (Json.array (names.map fun name ↦
      .object [("text", .string name), ("scope", .string (classify name).name.toList)])).document

/-- The operators in an output format. -/
def renderOperators (format : OutputFormat) : Text :=
  match format with
  | .text =>
    Token.all.flatMap fun token ↦
      line [Numeral.decimal token.id.raw.toNat, Literal.literal token.text]
  | .json =>
    (Json.array (Token.all.map fun token ↦
      .object [("id", .number token.id.raw.toNat), ("text", .string token.text),
        ("display", .string (Literal.literal token.text))])).document

/-! ### Batches -/

/-- The outcome of interning a batch of names. -/
structure BatchSummary where
  names : Nat
  unique : Nat
  stats : Stats
  jobs : Nat
  symbols : Option (List SymbolReport)

namespace BatchSummary

/-- The counts of a batch, each under its name. -/
def counts (summary : BatchSummary) (milliseconds : Nat) : List (String × Nat) :=
  [("names", summary.names), ("unique", summary.unique), ("records", summary.stats.count),
    ("hits", summary.stats.counters.hits), ("misses", summary.stats.counters.misses),
    ("races", summary.stats.counters.races), ("jobs", summary.jobs),
    ("elapsed_ms", milliseconds)]

/-- The line of a count. -/
def countLine (count : String × Nat) : Text :=
  line [count.1.toList, Numeral.decimal count.2]

/-- A batch that took some time, in an output format. In text, scopes without records have no
line. -/
def render (format : OutputFormat) (summary : BatchSummary) (milliseconds : Nat) : Text :=
  match format with
  | .text =>
    let scopes := summary.stats.histogram.filterMap fun (scope, count) ↦
      if count = 0 then none else some ("scope." ++ scope.name, count)
    (summary.counts milliseconds ++ scopes).flatMap countLine ++
      (summary.symbols.getD []).flatMap SymbolReport.toLine
  | .json =>
    let counts := (summary.counts milliseconds).map fun (name, count) ↦ (name, Json.number count)
    let scopes := summary.stats.histogram.map fun (scope, count) ↦
      Json.object [("scope", .string scope.name.toList), ("count", .number count)]
    let symbols := summary.symbols.toList.map fun reports ↦
      ("symbols", Json.array (reports.map SymbolReport.toJson))
    (Json.object (counts ++ ("scopes", Json.array scopes) :: symbols)).document

end BatchSummary

end Interning
