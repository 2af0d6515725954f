import Interning.Text
/-!
The values of a TOML document, and the tables that statements build. A table remembers how it
was defined, because only some definitions may be added to: a header may complete a table that
longer headers implied, dotted keys may extend a table that dotted keys began, and an inline
table is closed.
-/

set_option autoImplicit false
set_option relaxedAutoImplicit false

namespace Interning.Toml

/-- How a table came to be: implied by a longer header, named by a header of its own, begun by a
dotted key, or written inline. -/
inductive Origin where
  | implied
  | header
  | dotted
  | inline
deriving DecidableEq

/-- A value of a document. A float keeps its numeral, a date or time its word, and `tables` is an
array of tables, each begun by a header. -/
inductive Value where
  | boolean (value : Bool)
  | integer (value : Int)
  | float (numeral : Text)
  | dateTime (word : Text)
  | string (value : Text)
  | array (items : List Value)
  | table (origin : Origin) (entries : List (Text × Value))
  | tables (items : List (List (Text × Value)))

/-- The entries of a table in the order of their first appearance. -/
abbrev Entries := List (Text × Value)

/-- A key with the path that leads to the table it stands in. -/
structure Key where
  path : List Text
  name : Text

namespace Entries

/-- Gives a key its value, in place when the key is there and at the end otherwise. -/
def set (entries : Entries) (name : Text) (value : Value) : Entries :=
  match entries with
  | [] => [(name, value)]
  | entry :: rest =>
    if entry.1 = name then (name, value) :: rest else entry :: Entries.set rest name value

/-- Changes the table at the end of a path of headers. A table that is missing on the way is
implied, an array of tables leads to its last table, and an inline table to nothing. -/
def atPath (change : Entries → Option Entries) (entries : Entries) : List Text → Option Entries
  | [] => change entries
  | name :: path =>
    match entries.lookup name with
    | none =>
      (atPath change [] path).map fun inner ↦ Entries.set entries name (.table .implied inner)
    | some (.table .inline _) => none
    | some (.table origin inner) =>
      (atPath change inner path).map fun inner ↦ Entries.set entries name (.table origin inner)
    | some (.tables items) =>
      match items.getLast? with
      | none => none
      | some last =>
        (atPath change last path).map fun last ↦
          Entries.set entries name (.tables (items.dropLast ++ [last]))
    | some _ => none

/-- Names a table by a header. Only a missing table and an implied one may be named. -/
def nameTable (name : Text) (entries : Entries) : Option Entries :=
  match entries.lookup name with
  | none => some (Entries.set entries name (.table .header []))
  | some (.table .implied inner) => some (Entries.set entries name (.table .header inner))
  | some _ => none

/-- Adds an empty table to an array of tables, which is begun if it is missing. -/
def addTable (name : Text) (entries : Entries) : Option Entries :=
  match entries.lookup name with
  | none => some (Entries.set entries name (.tables [[]]))
  | some (.tables items) => some (Entries.set entries name (.tables (items ++ [[]])))
  | some _ => none

/-- Gives a new key its value. -/
def define (name : Text) (value : Value) (entries : Entries) : Option Entries :=
  match entries.lookup name with
  | none => some (Entries.set entries name value)
  | some _ => none

/-- Gives the key at the end of a dotted path its value. The path begins tables that are missing
and passes through implied ones and through the last table of an array of tables, but the table it
ends in must be one that dotted keys began. -/
def assign (name : Text) (value : Value) (entries : Entries) : List Text → Option Entries
  | [] => define name value entries
  | step :: path =>
    match entries.lookup step with
    | none =>
      (assign name value [] path).map fun inner ↦ Entries.set entries step (.table .dotted inner)
    | some (.table .dotted inner) =>
      (assign name value inner path).map fun inner ↦ Entries.set entries step (.table .dotted inner)
    | some (.table .implied inner) =>
      if path.isEmpty then none
      else
        (assign name value inner path).map fun inner ↦
          Entries.set entries step (.table .implied inner)
    | some (.tables items) =>
      match path.isEmpty, items.getLast? with
      | false, some last =>
        (assign name value last path).map fun last ↦
          Entries.set entries step (.tables (items.dropLast ++ [last]))
      | _, _ => none
    | some _ => none

/-- The table of a list of assignments, unless two of them conflict. -/
def ofAssignments (assignments : List (Key × Value)) : Option Entries :=
  assignments.foldlM (fun entries (key, value) ↦ assign key.name value entries key.path) []

end Entries

end Interning.Toml
