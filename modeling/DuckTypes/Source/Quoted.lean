import DuckTypes.Text.CharacterName
import DuckTypes.Text.Basic

namespace DuckTypes.Source

inductive Quoted.Kind where
  | text
  | bytes
  | template
  deriving DecidableEq, Repr

structure Quoted where
  kind : Quoted.Kind
  isRaw : Bool
  opening : Nat
  body : List Char
  deriving DecidableEq, Repr

namespace Quoted

def isQuote (c : Char) : Bool := c = '"' || c = '\''

def kindOf? (letters : List Char) : Option (Kind × Bool) :=
  match letters.map Char.toLower with
  | [] | ['u'] => some (.text, false)
  | ['r'] => some (.text, true)
  | ['b'] => some (.bytes, false)
  | ['b', 'r'] | ['r', 'b'] => some (.bytes, true)
  | ['f'] => some (.template, false)
  | ['f', 'r'] | ['r', 'f'] => some (.template, true)
  | _ => none

def letters? (cs : List Char) : Option (List Char) :=
  let letters := cs.takeWhile Char.isAlpha
  if (cs.drop letters.length).head?.any isQuote ∧ (kindOf? letters).isSome then some letters
  else none

def bodyLength (quote : Char) : List Char → Option Nat
  | [] => none
  | '\\' :: '\r' :: '\n' :: rest => (bodyLength quote rest).map (· + 3)
  | '\\' :: _ :: rest => (bodyLength quote rest).map (· + 2)
  | c :: rest =>
    if c = quote then some 0
    else if c = '\n' || c = '\r' then none
    else (bodyLength quote rest).map (· + 1)

def longBodyLength (quote : Char) : List Char → Option Nat
  | [] => none
  | '\\' :: _ :: rest => (longBodyLength quote rest).map (· + 2)
  | c :: rest =>
    if c = quote && rest.take 2 = [quote, quote] then some 0
    else (longBodyLength quote rest).map (· + 1)

def longestName : Nat := 88

/-- How many characters the escape takes that a backslash before this text begins, if it is one
at all. Numbers have two, four or eight digits and must be those of characters, and names between
braces must be names of characters. -/
def escapeLength (isBytes : Bool) : List Char → Option Nat
  | [] => none
  | c :: rest =>
    let code := fun digits : Nat =>
      match Text.hexNumber? (rest.take digits) with
      | some n => if digits ≤ rest.length ∧ n < 0x110000 then some (digits + 1) else none
      | none => none
    if c = 'x' then code 2
    else if isBytes then if c.toNat < 0x80 then some 1 else none
    else if c = 'u' then code 4
    else if c = 'U' then code 8
    else if c = 'N' then
      let name := (rest.drop 1).takeWhile (· ≠ '}')
      if rest.head? = some '{' ∧ name.length + 1 < rest.length ∧
          (String.ofList name).utf8ByteSize ≤ longestName ∧ Text.isCharacterName name
        then some (name.length + 3) else none
    else some 1

def isProper (isBytes isRaw : Bool) (cs : List Char) : Bool :=
  match cs with
  | [] => true
  | c :: rest =>
    if c = '\\' && !isRaw then
      match escapeLength isBytes rest with
      | none => false
      | some n => isProper isBytes isRaw (rest.drop n)
    else (!isBytes || c.toNat < 0x80) && isProper isBytes isRaw rest
termination_by cs.length
decreasing_by all_goals simp only [List.length_cons, List.length_drop]; omega

def withLineFeeds : List Char → List Char
  | '\r' :: '\n' :: rest => '\n' :: withLineFeeds rest
  | c :: rest => (if c = '\r' then '\n' else c) :: withLineFeeds rest
  | [] => []

def read (letters cs : List Char) : Option (Quoted × Nat) := do
  let (kind, isRaw) ← kindOf? letters
  let rest := cs.drop letters.length
  let quote ← rest.head?
  let quotes := if rest.take 3 = [quote, quote, quote] then 3 else 1
  let after := rest.drop quotes
  let length ← if quotes = 3 then longBodyLength quote after else bodyLength quote after
  let body := withLineFeeds (after.take length)
  if kind ≠ .template && !isProper (kind = .bytes) isRaw body then none
  let opening := letters.length + quotes
  return (⟨kind, isRaw, opening, body⟩, opening + length + quotes)

end Quoted

end DuckTypes.Source
