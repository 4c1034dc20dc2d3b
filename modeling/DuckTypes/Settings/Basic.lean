import DuckTypes.Glob.Match
import DuckTypes.LanguageVersion

namespace DuckTypes

inductive OutputFormat where
  | text | json
  deriving DecidableEq, Repr

structure AnalysisSettings where
  version : LanguageVersion := .latest
  parallel : Bool := true
  deriving DecidableEq, Repr

structure OutputSettings where
  format : OutputFormat := .text
  showReferences : Bool := true
  deriving DecidableEq, Repr

structure LoggingSettings where
  level : String := "warn"
  format : String := "compact"
  filter : Option String := none
  deriving DecidableEq, Repr

structure PathSettings where
  included : List String := []
  excluded : List String := []
  deriving DecidableEq, Repr

def PathSettings.builtin : PathSettings where
  included := ["**/*.py"]
  excluded := ["**/__pycache__/**", "**/venv/**", "**/.venv/**"]

structure Settings where
  analysis : AnalysisSettings := {}
  output : OutputSettings := {}
  logging : LoggingSettings := {}
  paths : PathSettings := .builtin
  deriving DecidableEq, Repr

instance : Inhabited Settings := ⟨{}⟩

inductive SettingsError where
  | read (path message : String)
  | write (path message : String)
  | malformed
  | badPattern (pattern : String) (error : Glob.PatternError)
  deriving DecidableEq, Repr

def SettingsError.message : SettingsError → String
  | read path message => "Failed to read config " ++ path ++ ": " ++ message
  | write path message => "Failed to write config " ++ path ++ ": " ++ message
  | malformed => "Failed to parse config"
  | badPattern pattern error => "Invalid path pattern '" ++ pattern ++ "': " ++ error.message

namespace PathSettings

def matchesPath (path pattern : String) : Bool :=
  match Glob.parse pattern with
  | .ok tokens => Glob.isMatch tokens path
  | .error _ => false

def admits (p : PathSettings) (path : String) : Bool :=
  !p.excluded.any (matchesPath path) &&
    (p.included.isEmpty || p.included.any (matchesPath path))

def validate (p : PathSettings) : Except SettingsError Unit :=
  (p.included ++ p.excluded).forM fun pattern =>
    match Glob.parse pattern with
    | .ok _ => .ok ()
    | .error e => .error (.badPattern pattern e)

end PathSettings

end DuckTypes
