import Interning.CommandLine
/-!
The program: the services of the real system, and the command line run on them.
-/

set_option autoImplicit false
set_option relaxedAutoImplicit false

namespace Interning

/-- The answer of an action, or a default when the system refuses it. -/
def attempt {α : Type} (base : α) (action : IO α) : IO α := do
  match ← action.toBaseIO with
  | .ok value => return value
  | .error _ => return base

/-- The text that bytes hold, if they are UTF-8. -/
def textOfBytes? (bytes : ByteArray) : Option Text :=
  (String.fromUTF8? bytes).map String.toList

/-- The services of the system that the program runs on. It has one thread, which does the work of
all workers. -/
def systemHost : Host IO where
  isFile path := attempt false do
    let metadata ← (← IO.FS.realPath (String.ofList path)).metadata
    return metadata.type == .file
  readFile path := attempt none do
    return textOfBytes? (← IO.FS.readBinFile (String.ofList path))
  readInput := attempt none do
    return some (← (← IO.getStdin).readToEnd).toList
  makeParents path := attempt false do
    let parent := Path.parent path
    if !parent.isEmpty then IO.FS.createDirAll (String.ofList parent)
    return true
  writeFile path content := attempt false do
    IO.FS.writeFile (String.ofList path) (String.ofList content)
    return true
  startWorkers _ := return .ok []
  milliseconds := IO.monoMsNow

/-- The variables that the program reads. -/
def variableNames : List String :=
  ["RUBRIC_SYM_SEQUENCE_FLOOR", "RUBRIC_SYM_CAPACITY", "RUBRIC_SYM_SHARDS", "RUBRIC_SYM_STATS",
    "RUBT_VERBOSE", "RUBT_NO_COLOR", "RUBT_CONFIG"]

/-- The number of processors that a listing of them names. -/
def processorCount (listing : Text) : Nat :=
  (Text.lines listing).countP fun line ↦ "processor".toList.isPrefixOf line

/-- What surrounds the program. -/
def surroundings : IO Surroundings := do
  let environment ← variableNames.filterMapM fun name ↦ do
    return (← IO.getEnv name).map fun value ↦ (name, value.toList)
  let home := (← IO.getEnv "HOME").map String.toList
  let configHome := ((← IO.getEnv "XDG_CONFIG_HOME").map String.toList).filter
    fun path ↦ path.head? = some '/'
  let listing ← attempt "" (IO.FS.readFile "/proc/cpuinfo")
  return {
    machine := ⟨max 1 (processorCount listing.toList)⟩
    environment := environment
    home := home
    configHome := configHome.or (home.map (· ++ "/.config".toList)) }

end Interning

open Interning in
/-- Runs the command line and reports its outcome. -/
def main (arguments : List String) : IO UInt32 := do
  let outcome ← runCommandLine systemHost (← surroundings) (arguments.map String.toList)
  IO.print (String.ofList outcome.output)
  match outcome.diagnostic with
  | some (.error message) => IO.eprintln ("Error: " ++ String.ofList message)
  | some (.fault message) => IO.eprintln (String.ofList message)
  | none => pure ()
  return outcome.code
