import DuckTypes.Text.Basic

namespace DuckTypes.Toml

structure Shape where
  hasBackslash : Bool
  hasControl : Bool
  hasNewline : Bool
  singleQuotes : Nat
  doubleQuotes : Nat

def longestRun (quote : Char) (run : Nat) : List Char → Nat
  | [] => run
  | c :: cs =>
    if c = quote then longestRun quote (run + 1) cs else max run (longestRun quote 0 cs)

def isControl (c : Char) : Bool := c.toNat < 0x20 || c = '\x7f'

def shape (text : List Char) : Shape where
  hasBackslash := text.contains '\\'
  hasControl := text.any fun c => isControl c && c ≠ '\t' && c ≠ '\n'
  hasNewline := text.contains '\n'
  singleQuotes := longestRun '\'' 0 text
  doubleQuotes := longestRun '"' 0 text

def escape (multiline : Bool) (c : Char) : List Char :=
  if c = '\x08' then ['\\', 'b']
  else if c = '\t' then ['\\', 't']
  else if c = '\n' then (if multiline then ['\n'] else ['\\', 'n'])
  else if c = '\x0c' then ['\\', 'f']
  else if c = '\r' then ['\\', 'r']
  else if c = '\\' then ['\\', '\\']
  else if isControl c then
    ['\\', 'u'] ++ (Text.hexDigits 4 c.toNat).map Char.toUpper
  else [c]

def escapeAll (multiline : Bool) (quotes : Nat) : List Char → List Char
  | [] => []
  | '"' :: rest =>
    if multiline ∧ quotes < 2 then '"' :: escapeAll multiline (quotes + 1) rest
    else '\\' :: '"' :: escapeAll multiline 0 rest
  | c :: rest => escape multiline c ++ escapeAll multiline 0 rest

def opening (s : Shape) : List Char := if s.hasNewline then ['\n'] else []

/-- A quoted text: with as few escapes as can be, on one line rather than on several, and between
double quotes rather than single ones. -/
def writeText (text : List Char) : List Char :=
  let s := shape text
  if !s.hasControl && !s.hasBackslash && s.doubleQuotes = 0 && !s.hasNewline then
    '"' :: escapeAll false 0 text ++ ['"']
  else if !s.hasControl && s.singleQuotes = 0 && !s.hasNewline then
    '\'' :: text ++ ['\'']
  else if !s.hasControl && !s.hasBackslash && s.doubleQuotes ≤ 2 then
    ['"', '"', '"'] ++ opening s ++ escapeAll true 0 text ++ ['"', '"', '"']
  else if !s.hasControl && s.singleQuotes ≤ 2 then
    ['\'', '\'', '\''] ++ opening s ++ text ++ ['\'', '\'', '\'']
  else if s.hasNewline then
    ['"', '"', '"'] ++ opening s ++ escapeAll true 0 text ++ ['"', '"', '"']
  else '"' :: escapeAll false 0 text ++ ['"']

inductive Plain where
  | text (text : String)
  | flag (value : Bool)
  | texts (texts : List String)
  deriving DecidableEq, Repr

def writeTexts : List String → List Char
  | [] => ['[', ']']
  | [only] => '[' :: writeText only.toList ++ [']']
  | texts =>
    '[' :: texts.flatMap (fun t => "\n    ".toList ++ writeText t.toList ++ [',']) ++ ['\n', ']']

def Plain.write : Plain → List Char
  | text t => writeText t.toList
  | flag value => (if value then "true" else "false").toList
  | texts ts => writeTexts ts

structure Section where
  name : String
  entries : List (String × Plain)
  deriving DecidableEq, Repr

def writeEntry (entry : String × Plain) : List Char :=
  entry.1.toList ++ " = ".toList ++ entry.2.write ++ ['\n']

def Section.write (s : Section) : List Char :=
  '[' :: s.name.toList ++ [']', '\n'] ++ s.entries.flatMap writeEntry

def writeSections : List Section → List Char
  | [] => []
  | [only] => only.write
  | first :: next :: rest => first.write ++ '\n' :: writeSections (next :: rest)

end DuckTypes.Toml
