import DuckTypes.LanguageVersion

namespace DuckTypes

def settingsFileName : String := ".typthon-protocols.toml"

def programName : String := "typthon-protocols"

structure Arguments where
  paths : List String := []
  settingsFile : Option String := none
  json : Bool := false
  version : Option LanguageVersion := none
  devLog : Bool := false
  deriving DecidableEq, Repr, Inhabited

namespace Arguments

inductive Refusal where
  | usage (program : String)
  | missingValue (option : String)
  | badVersion (version : LanguageVersion.Malformed)
  | unknownOption (option : String)
  | noPaths
  deriving DecidableEq, Repr

def usageText (program : String) : String :=
  "Usage: " ++ program ++ " [OPTIONS] <path>...\n\nOptions:\n" ++
    "  --config FILE   Read settings from FILE instead of discovering " ++ settingsFileName ++
    "\n" ++
    "  --json          Print the report as JSON\n" ++
    "  --python X.Y    Target Python version (default: 3.12)\n" ++
    "  --dev-log       Verbose logging to stderr"

def Refusal.message : Refusal → String
  | usage program => usageText program
  | missingValue option => option ++ " requires an argument"
  | badVersion version => version.message
  | unknownOption option => "Unknown option: " ++ option
  | noPaths => "No paths specified"

/-- Reads the tokens after the program's name from left to right. A token that follows `--config`
or `--python` is its value, whatever it looks like. -/
def readTokens (program : String) (a : Arguments) : List String → Except Refusal Arguments
  | [] => .ok a
  | token :: rest =>
    if token = "--json" then readTokens program { a with json := true } rest
    else if token = "--dev-log" then readTokens program { a with devLog := true } rest
    else if token = "--config" then
      match rest with
      | [] => .error (.missingValue token)
      | value :: rest => readTokens program { a with settingsFile := some value } rest
    else if token = "--python" then
      match rest with
      | [] => .error (.missingValue token)
      | value :: rest =>
        match LanguageVersion.parse value with
        | .ok version => readTokens program { a with version := some version } rest
        | .error e => .error (.badVersion e)
    else if token = "--help" ∨ token = "-h" then .error (.usage program)
    else if ['-', '-'].isPrefixOf token.toList then .error (.unknownOption token)
    else readTokens program { a with paths := a.paths ++ [token] } rest

def parse (args : List String) : Except Refusal Arguments :=
  let program := args.head?.getD programName
  match args.tail with
  | [] => .error (.usage program)
  | tokens => do
    let a ← readTokens program {} tokens
    if a.paths.isEmpty then .error .noPaths else .ok a

end Arguments

end DuckTypes
