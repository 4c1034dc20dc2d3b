import DuckTypes.Settings.Basic
import DuckTypes.Toml.Document

/-!
Settings from TOML documents. A table may also be given as the array of its values in order, and
a date or a time counts as a table. Keys that mean nothing are ignored, and keys that are missing
have their defaults.
-/

namespace DuckTypes.Settings

open Toml (Entries)

inductive Source where
  | keyed (entries : Entries)
  | listed (values : List Toml)

/-- Tables that share a header count as an array of tables. A date or a time is a table whose keys
mean nothing to any group. -/
def Source.ofToml? : Toml → Option Source
  | .table _ entries => some (.keyed entries)
  | .moment _ => some (.keyed [])
  | .array items => some (.listed items)
  | .tables items => some (.listed (items.map (.table .header)))
  | .string _ | .bool _ | .number _ => none

def Source.value? (s : Source) (place : Nat) (key : String) : Option Toml :=
  match s with
  | .keyed entries => entries.lookup key
  | .listed values => values[place]?

def Source.get {α : Type} (s : Source) (place : Nat) (key : String) (read : Toml → Option α)
    (default : α) : Option α :=
  match s.value? place key with
  | some value => read value
  | none => some default

def text? : Toml → Option String
  | .string text => some text
  | _ => none

def flag? : Toml → Option Bool
  | .bool value => some value
  | _ => none

def texts? : Toml → Option (List String)
  | .array items => items.mapM text?
  | .tables [] => some []
  | _ => none

def version? (value : Toml) : Option LanguageVersion := do
  (LanguageVersion.parse (← text? value)).toOption

def formatName? : String → Option OutputFormat
  | "text" => some .text
  | "json" => some .json
  | _ => none

def isVoid : Toml → Bool
  | .array items => items.isEmpty
  | .table _ entries => entries.isEmpty
  | .tables items => items.isEmpty
  | _ => false

/-- A choice is given by its name, alone or as the only key of a table, without a value of its
own. -/
def format? : Toml → Option OutputFormat
  | .string name => formatName? name
  | .table _ [(name, value)] => if isVoid value then formatName? name else none
  | _ => none

def analysis? (value : Toml) : Option AnalysisSettings := do
  let s ← Source.ofToml? value
  let version ← s.get 0 "python_version" version? .latest
  let parallel ← s.get 1 "parallel" flag? true
  return { version, parallel }

def output? (value : Toml) : Option OutputSettings := do
  let s ← Source.ofToml? value
  let format ← s.get 0 "format" format? .text
  let showReferences ← s.get 1 "show_references" flag? true
  return { format, showReferences }

def logging? (value : Toml) : Option LoggingSettings := do
  let s ← Source.ofToml? value
  let level ← s.get 0 "level" text? "warn"
  let format ← s.get 1 "format" text? "compact"
  let filter ← s.get 2 "filter" (fun value => (text? value).map some) none
  return { level, format, filter }

def paths? (value : Toml) : Option PathSettings := do
  let s ← Source.ofToml? value
  let included ← s.get 0 "include" texts? []
  let excluded ← s.get 1 "exclude" texts? []
  return { included, excluded }

def ofEntries? (entries : Entries) : Option Settings := do
  let s := Source.keyed entries
  let analysis ← s.get 0 "analysis" analysis? {}
  let output ← s.get 1 "output" output? {}
  let logging ← s.get 2 "logging" logging? {}
  let paths ← s.get 3 "paths" paths? .builtin
  return { analysis, output, logging, paths }

def parse (text : String) : Except SettingsError Settings :=
  match (Toml.read? text).bind ofEntries? with
  | none => .error .malformed
  | some settings => do
    settings.paths.validate
    return settings

end DuckTypes.Settings
