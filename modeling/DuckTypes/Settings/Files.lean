import DuckTypes.Settings.Basic
import DuckTypes.Toml.Write
import DuckTypes.Arguments
import DuckTypes.FileTree
import DuckTypes.Settings.Read

namespace DuckTypes

def OutputFormat.name : OutputFormat → String
  | text => "text"
  | json => "json"

namespace Settings

open Toml (Section Plain)

def sections (s : Settings) : List Section :=
  [⟨"analysis",
      [("python_version", .text s.analysis.version.text),
        ("parallel", .flag s.analysis.parallel)]⟩,
    ⟨"output",
      [("format", .text s.output.format.name),
        ("show_references", .flag s.output.showReferences)]⟩,
    ⟨"logging",
      [("level", .text s.logging.level), ("format", .text s.logging.format)] ++
        s.logging.filter.toList.map fun filter => ("filter", .text filter)⟩,
    ⟨"paths",
      [("include", .texts s.paths.included), ("exclude", .texts s.paths.excluded)]⟩]

def write (s : Settings) : String := String.ofList (Toml.writeSections s.sections)

def load (s : FileSystem) (path : String) : Except SettingsError Settings :=
  match s.readText path with
  | .ok text => parse text
  | .error e => .error (.read path e.message)

def save (s : FileSystem) (path : String) (settings : Settings) :
    Except SettingsError FileSystem :=
  match s.writeFile path settings.write.toUTF8 with
  | .ok s => .ok s
  | .error e => .error (.write path e.message)

def findFile? (s : FileSystem) (start : String) : Option String :=
  ((Path.ancestors start).map (Path.join · settingsFileName)).find? s.isFile

def discover (s : FileSystem) (start : String) : Except SettingsError Settings :=
  match findFile? s start with
  | some path => load s path
  | none => .ok {}

end Settings

end DuckTypes
