import DuckTypes.Text.Basic
import DuckTypes.Text.Inspect

namespace DuckTypes

inductive LogLevel where
  | error | warn | info | debug | trace
  deriving DecidableEq, Repr

inductive LogFormat where
  | pretty | compact | json
  deriving DecidableEq, Repr

inductive LogOutput where
  | stderr
  | file (directory stem : String)
  deriving DecidableEq, Repr

inductive LogError where
  | unknownLevel (text : String)
  | unknownFormat (text : String)
  deriving DecidableEq, Repr

def LogError.message : LogError → String
  | unknownLevel text => "Unknown log level: " ++ text
  | unknownFormat text => "Unknown log format: " ++ text

def lowerCase (s : String) : String := String.ofList (s.toList.map Char.toLower)

namespace LogLevel

def text : LogLevel → String
  | error => "ERROR"
  | warn => "WARN"
  | info => "INFO"
  | debug => "DEBUG"
  | trace => "TRACE"

def ofNumber? : Nat → Option LogLevel
  | 1 => some error
  | 2 => some warn
  | 3 => some info
  | 4 => some debug
  | 5 => some trace
  | _ => none

def ofName? : String → Option LogLevel
  | "error" => some error
  | "warn" => some warn
  | "info" => some info
  | "debug" => some debug
  | "trace" => some trace
  | _ => none

def parse (text : String) : Except LogError LogLevel :=
  match (Text.boundedDecimal? (UInt64.size - 1) text.toList).bind ofNumber? with
  | some level => .ok level
  | none =>
    match ofName? (lowerCase text) with
    | some level => .ok level
    | none => .error (.unknownLevel text)

end LogLevel

namespace LogFormat

def inspect : LogFormat → String
  | pretty => "Pretty"
  | compact => "Compact"
  | json => "Json"

def ofName? : String → Option LogFormat
  | "pretty" => some pretty
  | "compact" => some compact
  | "json" => some json
  | _ => none

def parse (text : String) : Except LogError LogFormat :=
  match ofName? (lowerCase text) with
  | some format => .ok format
  | none => .error (.unknownFormat (lowerCase text))

end LogFormat

def LogOutput.inspect : LogOutput → String
  | stderr => "Stderr"
  | file directory stem =>
    "File \x7b directory: " ++ Text.inspect directory ++ ", prefix: " ++ Text.inspect stem ++
      " \x7d"

structure LogSettings where
  level : LogLevel := .warn
  format : LogFormat := .compact
  output : LogOutput := .stderr
  spanEvents : Bool := false
  filter : Option String := none
  deriving DecidableEq, Repr

def LogSettings.ofTexts (level format : String) (filter : Option String) :
    Except LogError LogSettings := do
  let level ← LogLevel.parse level
  let format ← LogFormat.parse format
  return { level, format, filter }

end DuckTypes
