import DuckTypes.Toml.Scalar

namespace DuckTypes.Toml

inductive Statement where
  | header (path : List String)
  | tablesHeader (path : List String)
  | assign (path : List String) (value : Toml)

def nestingLimit : Nat := 80

def isBareChar (c : Char) : Bool := c.isAlphanum || c = '_' || c = '-'

def readKeyPart (cs : List Char) : Option (String × List Char) :=
  match readKeyQuoted cs with
  | some (text, rest) => some (String.ofList text, rest)
  | none =>
    let bare := cs.takeWhile isBareChar
    if bare.isEmpty then none else some (String.ofList bare, cs.dropWhile isBareChar)

def readKeyParts : Nat → List Char → Option (List String × List Char)
  | 0, _ => none
  | fuel + 1, cs => do
    let (part, rest) ← readKeyPart (skipBlanks cs)
    match skipBlanks rest with
    | '.' :: rest =>
      let (parts, rest) ← readKeyParts fuel rest
      return (part :: parts, rest)
    | rest => return ([part], rest)

def readKey (cs : List Char) : Option (List String × List Char) :=
  (readKeyParts cs.length cs).filter fun (parts, _) => parts.length < nestingLimit

def skipComment (cs : List Char) : List Char := cs.dropWhile isPlain

def readLineEnd (cs : List Char) : Option (List Char) :=
  let rest := match skipBlanks cs with
    | '#' :: rest => skipComment rest
    | rest => rest
  match rest with
  | [] => some []
  | rest => readNewline rest

def skipGap : Nat → List Char → Option (List Char)
  | 0, _ => none
  | fuel + 1, cs =>
    match skipSpace cs with
    | '#' :: rest => do
      let rest ← readNewline (skipComment rest)
      skipGap fuel rest
    | rest => some rest

/-- Whether a key may be split from a table's entries to go on inside it: the table must have come
about by dotted keys, unless the key goes on further. -/
def openToKeys (last : Bool) : Origin → Bool
  | .dotted => true
  | .implied => !last
  | .header | .inline => false

def replace (key : String) (value : Toml) (entries : Entries) : Entries :=
  entries.map fun (k, v) => if k = key then (k, value) else (k, v)

def inLast (f : Entries → Option Entries) (items : List Entries) : Option (List Entries) :=
  match items.getLast? with
  | none => none
  | some last => (f last).map fun last => items.dropLast ++ [last]

def assign (value : Toml) : List String → Entries → Option Entries
  | [], _ => none
  | [key], entries =>
    match entries.lookup key with
    | none => some (entries ++ [(key, value)])
    | some _ => none
  | key :: next :: path, entries =>
    match entries.lookup key with
    | none =>
      (assign value (next :: path) []).map fun inner => entries ++ [(key, .table .dotted inner)]
    | some (.table origin inner) =>
      if openToKeys path.isEmpty origin then
        (assign value (next :: path) inner).map fun inner =>
          replace key (.table origin inner) entries
      else none
    | some (.tables items) =>
      if path.isEmpty then none
      else
        (inLast (assign value (next :: path)) items).map fun items =>
          replace key (.tables items) entries
    | some _ => none

mutual

def readValue : Nat → Nat → List Char → Option (Toml × List Char)
  | 0, _, _ => none
  | fuel + 1, room, cs =>
    match cs with
    | '[' :: rest => do
      if room = 0 then none
      let (items, rest) ← readItems fuel (room - 1) rest
      return (.array items, rest)
    | '\x7b' :: rest => do
      if room = 0 then none
      match skipBlanks rest with
      | '\x7d' :: rest => return (.table .inline [], rest)
      | rest =>
        let (entries, rest) ← readEntries fuel (room - 1) [] rest
        return (.table .inline entries, rest)
    | '"' :: _ | '\'' :: _ => do
      let (text, rest) ← readQuoted cs
      return (.string (String.ofList text), rest)
    | _ => readScalar cs

def readItems : Nat → Nat → List Char → Option (List Toml × List Char)
  | 0, _, _ => none
  | fuel + 1, room, cs => do
    match ← skipGap (cs.length + 1) cs with
    | ']' :: rest => return ([], rest)
    | rest =>
      let (item, rest) ← readValue fuel room rest
      match ← skipGap (rest.length + 1) rest with
      | ',' :: rest =>
        let (items, rest) ← readItems fuel room rest
        return (item :: items, rest)
      | ']' :: rest => return ([item], rest)
      | _ => none

def readEntries : Nat → Nat → Entries → List Char → Option (Entries × List Char)
  | 0, _, _, _ => none
  | fuel + 1, room, entries, cs => do
    let (path, rest) ← readKey cs
    match rest with
    | '=' :: rest =>
      let (value, rest) ← readValue fuel room (skipBlanks rest)
      let entries ← assign value path entries
      match skipBlanks rest with
      | ',' :: rest => readEntries fuel room entries rest
      | '\x7d' :: rest => return (entries, rest)
      | _ => none
    | _ => none

end

def readStatement (cs : List Char) : Option (Statement × List Char) :=
  match cs with
  | '[' :: '[' :: rest => do
    let (path, rest) ← readKey rest
    match rest with
    | ']' :: ']' :: rest => return (.tablesHeader path, ← readLineEnd rest)
    | _ => none
  | '[' :: rest => do
    let (path, rest) ← readKey rest
    match rest with
    | ']' :: rest => return (.header path, ← readLineEnd rest)
    | _ => none
  | _ => do
    let (path, rest) ← readKey cs
    match rest with
    | '=' :: rest =>
      let (value, rest) ← readValue (2 * rest.length + 2) nestingLimit.pred (skipBlanks rest)
      return (.assign path value, ← readLineEnd rest)
    | _ => none

def readStatements : Nat → List Char → Option (List Statement)
  | 0, _ => none
  | fuel + 1, cs =>
    match skipSpace cs with
    | [] => some []
    | '#' :: rest => do
      let rest ← readLineEnd ('#' :: rest)
      readStatements fuel rest
    | rest => do
      let (statement, rest) ← readStatement rest
      return statement :: (← readStatements fuel rest)

def statements? (cs : List Char) : Option (List Statement) :=
  let body := match cs with
    | '\uFEFF' :: rest => rest
    | _ => cs
  readStatements (body.length + 1) body

end DuckTypes.Toml
