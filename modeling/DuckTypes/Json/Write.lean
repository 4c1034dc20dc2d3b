import DuckTypes.Json.Basic
import DuckTypes.Text.Basic

namespace DuckTypes.Json

def writeChar (c : Char) : List Char :=
  if c = '"' then ['\\', '"']
  else if c = '\\' then ['\\', '\\']
  else if c = '\x08' then ['\\', 'b']
  else if c = '\x0c' then ['\\', 'f']
  else if c = '\n' then ['\\', 'n']
  else if c = '\r' then ['\\', 'r']
  else if c = '\t' then ['\\', 't']
  else if c.toNat < 0x20 then ['\\', 'u'] ++ Text.hexDigits 4 c.toNat
  else [c]

def writePiece : Piece → List Char
  | .char c => writeChar c
  | .unit n => ['\\', 'u'] ++ Text.hexDigits 4 n

def writeString (ps : List Piece) : List Char := '"' :: ps.flatMap writePiece ++ ['"']

mutual

def compact : Json → List Char
  | .null => "null".toList
  | .bool value => (if value then "true" else "false").toList
  | .number text => text
  | .string ps => writeString ps
  | .array items => '[' :: compactItems items ++ [']']
  | .object members => '\x7b' :: compactMembers members ++ ['\x7d']

def compactItems : List Json → List Char
  | [] => []
  | [item] => compact item
  | item :: next :: items => compact item ++ ',' :: compactItems (next :: items)

def compactMembers : List (List Piece × Json) → List Char
  | [] => []
  | [(name, value)] => writeString name ++ ':' :: compact value
  | (name, value) :: next :: members =>
    writeString name ++ ':' :: compact value ++ ',' :: compactMembers (next :: members)

end

def newLine (depth : Nat) : List Char := '\n' :: List.replicate (2 * depth) ' '

mutual

def pretty (depth : Nat) : Json → List Char
  | .null => "null".toList
  | .bool value => (if value then "true" else "false").toList
  | .number text => text
  | .string ps => writeString ps
  | .array items =>
    if items.isEmpty then ['[', ']']
    else '[' :: prettyItems (depth + 1) items ++ newLine depth ++ [']']
  | .object members =>
    if members.isEmpty then ['\x7b', '\x7d']
    else '\x7b' :: prettyMembers (depth + 1) members ++ newLine depth ++ ['\x7d']

def prettyItems (depth : Nat) : List Json → List Char
  | [] => []
  | [item] => newLine depth ++ pretty depth item
  | item :: next :: items =>
    newLine depth ++ pretty depth item ++ ',' :: prettyItems depth (next :: items)

def prettyMembers (depth : Nat) : List (List Piece × Json) → List Char
  | [] => []
  | [(name, value)] => newLine depth ++ writeString name ++ ": ".toList ++ pretty depth value
  | (name, value) :: next :: members =>
    newLine depth ++ writeString name ++ ": ".toList ++ pretty depth value ++
      ',' :: prettyMembers depth (next :: members)

end

end DuckTypes.Json
