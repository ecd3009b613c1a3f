import Jotter.CommandLine.Report
import Std.Time.DateTime.Timestamp

/-!
The program. It gathers what a command line can refer to (the files that its words name, the usual
settings file, the clock and, if the composer is to start, the lines of the standard input), asks the
library for the report and shows it. What is printed on the console is shown without its styles.
-/

namespace Jotter.Main

/-- What the clock shows, at UTC. -/
def now : IO Moment := do
  let stamp ← Std.Time.Timestamp.now
  match Moment.ofMicrosSinceEpoch? (stamp.toNanosecondsSinceUnixEpoch.val / 1000) with
  | some moment => return moment
  | none => throw (IO.userError (Failure.message .dateOutOfRange))

/-- The variables that are looked at where no settings refer to others. -/
def environment : IO Environment := do
  let mut entries := []
  for name in ["HOME", "CONFIG_FILE"] do
    if let some value ← IO.getEnv name then entries := (name, value) :: entries
  return ⟨entries⟩

/-- The names of files that the words of a command line hold, also behind an equals sign. -/
def fileNames (arguments : List String) : List String :=
  arguments ++ arguments.map fun word => "=".intercalate ((Text.split '=' word).drop 1)

/-- The files of these names that can be read. -/
def folder (names : List String) : IO (Folder Document) := do
  let mut folder : Folder Document := {}
  for name in names.filter (!·.isEmpty) do
    try
      let text ← IO.FS.readFile name
      folder := folder.put (.ofText name) (.ofText text)
    catch _ => pure ()
  return folder

/-- The lines of a stream up to its end, each without its line break. -/
partial def readLines (stream : IO.FS.Stream) : IO (List String) := do
  let line ← stream.getLine
  if line.isEmpty then return []
  let rest ← readLines stream
  return (.ofList (line.toList.filter (· != '\n'))) :: rest

/-- The lines that are typed if the composer is to start. -/
def turns : Except Failure (Reading Order) → IO (List Turn)
  | .ok (.asks ⟨_, _, _, .asks (.compose _)⟩) => do
    let lines ← readLines (← IO.getStdin)
    return lines.map fun line => ⟨[], .submit line⟩
  | _ => return []

/-- A printed item without its styles. -/
def plainText : Printed → String
  | .markup text => text
  | .plain text _ => text
  | .document source => source
  | .panel body title _ => title ++ "\n" ++ body
  | .table table => "\n".intercalate ((table.columns :: table.rows).map ("\t".intercalate ·))

end Jotter.Main

open Jotter in
def main (arguments : List String) : IO UInt32 := do
  let environment ← Main.environment
  let usual := ((environment.value? "CONFIG_FILE").toList ++ [Surroundings.usualName])
  let folder ← Main.folder (usual ++ Main.fileNames arguments)
  let turns ← Main.turns (Reading.ofArguments folder arguments)
  let now ← Main.now
  let report := ((Report.ofArguments arguments turns now).run ⟨⟨folder, environment, []⟩, none, []⟩).1
  for item in report.printed do
    IO.println (Main.plainText item)
  IO.print report.output
  IO.eprint report.complaints
  return report.status.toUInt32
