import Redelivery.Report
import Redelivery.Settings.Layers

/-!
# Main

The command line: reads the configuration, prints the chains of its endpoints and creates their
topics.  The only argument is the path of a configuration file.
-/

namespace Redelivery

/-- The text of a file, if it can be read. -/
def readText? (name : String) : IO (Option String) := do
  try return some (← IO.FS.readFile name) catch _ => return none

/-- The variables of the environment. -/
def environment : IO (List (String × String)) := do
  let bytes ← IO.FS.readBinFile "/proc/self/environ"
  let entries := (Utf8.decodeLossy bytes).toList.splitOn '\x00'
  return entries.filterMap fun entry =>
    match entry.dropWhile (· ≠ '=') with
    | [] => none
    | _ :: value => some (String.ofList (entry.takeWhile (· ≠ '=')), String.ofList value)

/-- Reads the files that may hold settings, under every name that they may have. -/
def readFiles (names : List String) : IO (List (String × String)) := do
  let spellings := names.flatMap fun n => [n, n ++ ".yaml", n ++ ".yml"]
  return (← spellings.mapM fun n => do
    return (← readText? n).map fun text => (n, text)).filterMap id

end Redelivery

open Redelivery in
/-- Prints the report and creates the topics; an error ends the program with a status of one. -/
def main (args : List String) : IO UInt32 := do
  let known ← environment
  let path := args.head?
  let names := Settings.standardFile :: path.toList ++
    (known.lookup Settings.fileVariable).toList
  let files ← readFiles names
  match Settings.load (fun n => List.lookup n files) path known with
  | .error flaw =>
      IO.eprintln ("Error: Failed to load config: " ++ flaw.message)
      return 1
  | .ok settings =>
      let seed ← IO.rand 0 (Nat.pow 2 62)
      let report := Report.ofSettings settings fun n => seed + n.toNat * 0x9E3779B97F4A7C15
      report.lines.forM (IO.println ·)
      match report.outcome with
      | .ok _ => return 0
      | .error e =>
          IO.eprintln ("Error: " ++ e.message)
          return 1
