import Std.Time.DateTime.Timestamp
import TodoLedger.Database.Json
import TodoLedger.Program.Run

/-!
# The executable

Connects the program with the files of the machine: databases and texts are read from files,
databases are written to them, lines go to the standard output and the failure to the standard
error.
-/

namespace TodoLedger.Program

/-- True of a path that leads to a directory. -/
def leadsToDirectory (path : String) : IO Bool := do
  if path.isEmpty then return false
  else ((← IO.currentDir) / path).isDir

/-- True of a path that leads to a file or a directory. -/
def leadsSomewhere (path : String) : IO Bool := do
  if path.isEmpty then return false
  else ((← IO.currentDir) / path).pathExists

/-- The text of a file, if it can be read. -/
def readFile? (path : String) : IO (Option String) := do
  try
    let text ← IO.FS.readFile path
    return some text
  catch _ => return none

/-- What stands where a database should be. -/
def loadFile (path : String) : IO Stored := do
  if ← leadsToDirectory path then return .closed
  else if ← leadsSomewhere path then
    match ← readFile? path with
    | some text => return .ofText text
    | none => return .foreign
  else return .missing

/-- The present, in seconds from the start of 1970. -/
def presentSeconds : IO Int64 := do
  return Int64.ofInt (← Std.Time.Timestamp.now).toSecondsSinceUnixEpoch.val

/-- The machine as the program sees it. -/
def machine : IO (Host IO) := do
  return {
    directory := (← IO.currentDir).toString
    now := presentSeconds
    isDirectory := leadsToDirectory
    exists? := leadsSomewhere
    readText? := readFile?
    loadDatabase := loadFile
    saveDatabase := fun path snapshot => do IO.FS.writeFile path snapshot.toText }

end TodoLedger.Program

open TodoLedger in
/-- The program: it prints what it has to say, and why it failed if it did. -/
def main (arguments : List String) : IO UInt32 := do
  let report ← Program.run (← Program.machine) arguments
  for line in report.lines do IO.println line
  match report.failure with
  | some failure => IO.eprintln ("Error: " ++ failure.message)
  | none => pure ()
  return report.code
