import DuckTypes.LogSettings
import DuckTypes.Settings.Files
import DuckTypes.Survey.Files
import DuckTypes.Survey.Write

namespace DuckTypes

structure Program where
  arguments : Arguments
  settings : Settings

namespace Program

inductive Failure where
  | refused (refusal : Arguments.Refusal)
  | settings (error : SettingsError)
  | logging (error : LogError)
  | collecting (error : Survey.CollectError)
  deriving DecidableEq, Repr

def Failure.message : Failure → String
  | refused refusal => refusal.message
  | settings error => error.message
  | logging error => error.message
  | collecting error => error.message

structure Outcome where
  code : Nat
  output : String
  complaints : List String
  deriving DecidableEq, Repr

def override (a : Arguments) (s : Settings) : Settings :=
  { s with
    output.format := if a.json then .json else s.output.format
    analysis.version := a.version.getD s.analysis.version }

def ofArguments (s : FileSystem) (a : Arguments) : Except SettingsError Program := do
  let settings ← match a.settingsFile with
    | some path => Settings.load s path
    | none => Settings.discover s s.directoryPath
  return ⟨a, override a settings⟩

def ofCommandLine (s : FileSystem) (args : List String) : Except Failure Program := do
  let a ← (Arguments.parse args).mapError .refused
  (ofArguments s a).mapError .settings

def renderText (p : Program) (reports : List Survey.ModuleReport) : String :=
  Survey.renderText p.settings.output.showReferences reports

def render (p : Program) (reports : List Survey.ModuleReport) : String :=
  match p.settings.output.format with
  | .json => Survey.renderJson reports
  | .text => p.renderText reports

def report? : Except Survey.FileFailure Survey.ModuleReport → Option Survey.ModuleReport :=
  Except.toOption

def complaint? : Except Survey.FileFailure Survey.ModuleReport → Option String
  | .ok _ => none
  | .error e => some e.message

def run (p : Program) (s : FileSystem) : Except Failure Outcome := do
  if p.arguments.paths.isEmpty then throw (.refused .noPaths)
  let files ← (Survey.collect s p.settings.paths p.arguments.paths).mapError .collecting
  let (results, _) := (Survey.reportFiles s p.settings.analysis.version files).run {}
  let complaints := results.filterMap complaint?
  return ⟨if complaints.isEmpty then 0 else 1, p.render (results.filterMap report?), complaints⟩

def checkLogging (p : Program) : Except Failure Unit := do
  if !p.arguments.devLog then
    let l := p.settings.logging
    let _ ← (LogSettings.ofTexts l.level l.format l.filter).mapError .logging

def execute (s : FileSystem) (args : List String) : Outcome :=
  let result := do
    let p ← ofCommandLine s args
    p.checkLogging
    p.run s
  match result with
  | .ok outcome => outcome
  | .error e => ⟨1, "", ["Error: " ++ e.message]⟩

end Program

end DuckTypes
