import DuckTypes.Program

/-!
The command line. Standard input lists the files of a project, one path a line; the program looks
at these and at the files that the command line names.
-/

namespace DuckTypes

def loadPath (s : FileSystem) (path : String) : IO FileSystem := do
  try return s.add path (.file (← IO.FS.readBinFile path))
  catch
    | .inappropriateType .. => return s.addFolder path
    | _ => return s

def listedPaths : IO (List String) := do
  let input ← IO.getStdin
  if ← input.isTty then return [] else return (← input.lines).toList

end DuckTypes

open DuckTypes

def main (args : List String) : IO UInt32 := do
  let files ← (settingsFileName :: args ++ (← listedPaths)).foldlM loadPath {}
  let outcome := Program.execute files (programName :: args)
  IO.print outcome.output
  outcome.complaints.forM IO.eprintln
  return outcome.code.toUInt32
