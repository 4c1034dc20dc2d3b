import DuckTypes.Source.Token
import DuckTypes.Text.Identifier

namespace DuckTypes.Source

inductive LexemeKind where
  | token (kind : TokenKind)
  | blank (text : List Char)
  | comment
  | lineBreak
  | joint
  deriving DecidableEq, Repr

structure Lexeme where
  kind : LexemeKind
  range : Range
  deriving DecidableEq, Repr

namespace Lexeme

def isBlank (c : Char) : Bool := c = ' ' || c = '\t' || c = '\x0c'

def isBreak (c : Char) : Bool := c = '\n' || c = '\r'

def breakLength : List Char → Nat
  | '\r' :: '\n' :: _ => 2
  | '\r' :: _ | '\n' :: _ => 1
  | _ => 0

def punctuation? (cs : List Char) : Option String :=
  punctuation.find? fun spelling => spelling.toList.isPrefixOf cs

def readMark (cs : List Char) : Option (LexemeKind × Nat) :=
  match punctuation? cs with
  | some spelling => some (.token (.mark spelling), spelling.length)
  | none => do
    let c ← cs.head?
    if Text.isPicture c then some (.token (.name c.toString), 1) else none

def read (cs : List Char) : Option (LexemeKind × Nat) := do
  let c ← cs.head?
  if isBlank c then
    let text := cs.takeWhile isBlank
    return (.blank text, text.length)
  else if isBreak c then return (.lineBreak, breakLength cs)
  else if c = '#' then return (.comment, (cs.takeWhile fun c => !isBreak c).length)
  else if c = '\\' then
    match breakLength cs.tail with
    | 0 => none
    | n => return (.joint, n + 1)
  else if c.isDigit || (c = '.' && cs.tail.head?.any Char.isDigit) then
    let (kind, length) ← numeral cs
    return (.token (.number kind), length)
  else
    match Quoted.letters? cs with
    | some letters =>
      let (text, length) ← Quoted.read letters cs
      return (.token (.quoted text), length)
    | none =>
      if Text.isIdentifierStart c then
        let word := String.ofList (cs.takeWhile Text.isIdentifierPart)
        return (.token (.ofWord word), word.length)
      else readMark cs

def byteLength (cs : List Char) : Nat := cs.foldl (fun n c => n + c.utf8Size) 0

def all? (start : Nat) (cs : List Char) : Option (List Lexeme) :=
  match cs with
  | [] => some []
  | c :: rest =>
    match read (c :: rest) with
    | none => none
    | some (kind, length) =>
      let stop := start + byteLength (c :: rest.take (length - 1))
      (all? stop (rest.drop (length - 1))).map (⟨kind, ⟨start, stop⟩⟩ :: ·)
termination_by cs.length
decreasing_by simp only [List.length_cons, List.length_drop]; omega

end Lexeme

end DuckTypes.Source
