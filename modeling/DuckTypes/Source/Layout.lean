import DuckTypes.Source.Lexeme

/-!
The lines and blocks of a source. Within brackets line breaks do not count; outside of them the
blanks at the beginning of a line say which blocks begin and end.
-/

namespace DuckTypes.Source

structure Indentation where
  tabs : Nat
  spaces : Nat
  deriving DecidableEq, Repr, Inhabited

namespace Indentation

def add (i : Indentation) (blank : Char) : Option Indentation :=
  if blank = ' ' then some { i with spaces := i.spaces + 1 }
  else if blank = '\t' then if i.spaces = 0 then some { i with tabs := i.tabs + 1 } else none
  else some ⟨0, 0⟩

def compare? (a b : Indentation) : Option Ordering :=
  if a.tabs = b.tabs then some (compare a.spaces b.spaces)
  else if a.tabs < b.tabs then if a.spaces ≤ b.spaces then some .lt else none
  else if b.spaces ≤ a.spaces then some .gt else none

end Indentation

structure Layout where
  brackets : Nat
  blocks : List Indentation
  margin : Option Indentation
  deriving DecidableEq, Repr

namespace Layout

def start : Layout := ⟨0, [], some ⟨0, 0⟩⟩

def leave (i : Indentation) (blocks : List Indentation) :
    Option (List Indentation × List TokenKind) := do
  match ← i.compare? (blocks.head?.getD ⟨0, 0⟩) with
  | .eq => return (blocks, [])
  | .gt => none
  | .lt =>
    match blocks with
    | [] => none
    | _ :: outer =>
      let (blocks, marks) ← leave i outer
      return (blocks, .dedent :: marks)

def enter (i : Indentation) (blocks : List Indentation) :
    Option (List Indentation × List TokenKind) := do
  match ← i.compare? (blocks.head?.getD ⟨0, 0⟩) with
  | .gt => return (i :: blocks, [.indent])
  | _ => leave i blocks

def within (s : Layout) : LexemeKind → Option (Layout × List TokenKind)
  | .blank _ | .comment | .joint => some (s, [])
  | .lineBreak =>
    if s.brackets = 0 then some ({ s with margin := some ⟨0, 0⟩ }, [.newline]) else some (s, [])
  | .token (.mark spelling) =>
    if isOpening spelling then some ({ s with brackets := s.brackets + 1 }, [.mark spelling])
    else if isClosing spelling then
      if s.brackets = 0 then none
      else some ({ s with brackets := s.brackets - 1 }, [.mark spelling])
    else some (s, [.mark spelling])
  | .token kind => some (s, [kind])

def next (s : Layout) (kind : LexemeKind) : Option (Layout × List TokenKind) :=
  match s.margin with
  | none => s.within kind
  | some margin =>
    match kind with
    | .blank text => do
      let margin ← text.foldlM Indentation.add margin
      return ({ s with margin := some margin }, [])
    | .comment | .lineBreak => some ({ s with margin := some ⟨0, 0⟩ }, [])
    | _ => do
      let (blocks, marks) ← enter margin s.blocks
      let (s, kinds) ← within { s with blocks, margin := none } kind
      return (s, marks ++ kinds)

def finish (s : Layout) : Option (List TokenKind) :=
  if s.brackets ≠ 0 then none
  else some ((if s.margin.isNone then [.newline] else []) ++ s.blocks.map fun _ => .dedent)

def tokens (s : Layout) : List Lexeme → Option (List Token)
  | [] => s.finish.map fun kinds => kinds.map (⟨·, default⟩)
  | x :: rest => do
    let (s, kinds) ← s.next x.kind
    let more ← s.tokens rest
    return kinds.map (⟨·, x.range⟩) ++ more

end Layout

def TokenKind.endsLine : TokenKind → Bool
  | .newline | .indent | .dedent => true
  | _ => false

def lineKinds (tokens : List Token) : List TokenKind :=
  (tokens.takeWhile (·.kind ≠ .newline)).map Token.kind

def hasColon (nesting : Int) (lambda first : Bool) : List TokenKind → Bool
  | [] => false
  | .mark spelling :: rest =>
    if spelling = "lambda" && nesting = 0 then hasColon nesting true false rest
    else if spelling = ":" && nesting = 0 then
      if lambda then hasColon nesting false false rest
      else !first || hasColon nesting false false rest
    else if isOpening spelling then hasColon (nesting + 1) lambda false rest
    else if isClosing spelling then hasColon (nesting - 1) lambda false rest
    else hasColon nesting lambda false rest
  | _ :: rest => hasColon nesting lambda false rest

def hasEquals (nesting : Int) : List TokenKind → Bool
  | [] => false
  | .mark spelling :: rest =>
    if spelling = "=" && nesting = 0 then true
    else if spelling = "[" then hasEquals (nesting + 1) rest
    else if spelling = "]" then hasEquals (nesting - 1) rest
    else hasEquals nesting rest
  | _ :: rest => hasEquals nesting rest

def isSoftKeyword (id : String) (line : List TokenKind) : Bool :=
  if id = "match" || id = "case" then hasColon 0 false true line
  else if id = "type" then
    match line with
    | .name _ :: rest => hasEquals 0 rest
    | _ => false
  else false

def markSoftKeywords (startsLine : Bool) : List Token → List Token
  | [] => []
  | t :: rest =>
    let kind := match t.kind with
      | .name id => if startsLine && isSoftKeyword id (lineKinds rest) then .mark id else t.kind
      | kind => kind
    { t with kind } :: markSoftKeywords t.kind.endsLine rest

def tokens? (start : Nat) (startsLine : Bool) (cs : List Char) : Option (List Token) := do
  let lexemes ← Lexeme.all? start cs
  if lexemes.getLast?.any (·.kind = .joint) then none
  let tokens ← Layout.start.tokens lexemes
  return markSoftKeywords startsLine tokens

end DuckTypes.Source
