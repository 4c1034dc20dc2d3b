import DuckTypes.Glob.Listing
import DuckTypes.Settings.Basic
import DuckTypes.FileTree
import DuckTypes.Source.Read
import DuckTypes.Survey.Report

namespace DuckTypes.Survey

inductive CollectError where
  | notFound (path : String)
  | badPattern (error : Glob.PatternError)
  deriving DecidableEq, Repr

def CollectError.message : CollectError → String
  | notFound path => "Path not found: " ++ path
  | badPattern error => "Glob pattern error: " ++ error.message

/-- The pattern of the Python files below a folder. The folder's own path is a pattern too. -/
def folderPattern (folder : String) : String := folder ++ "/**/*.py"

def collectPath (s : FileSystem) (p : PathSettings) (path : String) :
    Except CollectError (List String) :=
  if s.isFile path then .ok [path]
  else if s.isFolder path then
    match Glob.list s (folderPattern path) with
    | .ok found => .ok ((found.filter fun f => s.isFile f.path && p.admits f.path).map (·.path))
    | .error e => .error (.badPattern e)
  else .error (.notFound path)

def collect (s : FileSystem) (p : PathSettings) (paths : List String) :
    Except CollectError (List String) :=
  List.flatten <$> paths.mapM (collectPath s p)

inductive FileFailure where
  | unreadable (path : String) (error : FileError)
  | malformed (path : String)
  deriving DecidableEq, Repr

def FileFailure.message : FileFailure → String
  | unreadable path error => "Failed to read " ++ path ++ ": " ++ error.message
  | malformed path => "Parse error in " ++ path

def moduleName (path : String) : String := ((Path.fileName? path).map Path.stem).getD path

def readModule (s : FileSystem) (version : LanguageVersion) (path : String) :
    Except FileFailure (SourceModule × Source.Root) :=
  match s.readText path with
  | .error e => .error (.unreadable path e)
  | .ok source =>
    match Source.Root.read source with
    | none => .error (.malformed path)
    | some r =>
      let m : SourceModule := { name := moduleName path, path, version }
      .ok (m.withSource source, r)

def surveyFile (s : FileSystem) (version : LanguageVersion) (path : String) :
    Action (Except FileFailure ModuleSurvey) := do
  match readModule s version path with
  | .error e => return .error e
  | .ok (m, r) => return .ok (← surveyModule m r)

def reportFiles (s : FileSystem) (version : LanguageVersion) (paths : List String) :
    Action (List (Except FileFailure ModuleReport)) := do
  let surveys ← paths.mapM (surveyFile s version)
  surveys.mapM fun survey => do
    match survey with
    | .error e => return .error e
    | .ok survey => return .ok (← survey.report)

end DuckTypes.Survey
