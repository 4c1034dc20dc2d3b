import DuckTypes.Source.Grammar.Level
import DuckTypes.Source.Layout
import DuckTypes.Text.Basic

namespace DuckTypes.Source.Grammar.Template

inductive Place where
  | plain
  | inString (quote : Char)
  | inComparison

def closing? (c : Char) : Option Char :=
  if c = '(' then some ')' else if c = '[' then some ']' else if c = '{' then some '}' else none

structure Written where
  text : List Char
  isShown : Bool
  rest : List Char

def Written.cons (c : Char) (w : Written) : Written := { w with text := c :: w.text }

/-- Reads an expression up to the brace, colon or exclamation mark that ends it, which is not within
brackets. After an equals sign, which is no part of it, blanks do not count, and nothing comes but
strings, brackets and comparisons. -/
def readExpression (place : Place) (closers : List Char) (shown : Bool) : List Char → Option Written
  | [] => none
  | c :: rest =>
    let more := fun place closers => (readExpression place closers shown rest).map (.cons c)
    let skip := readExpression .plain closers true rest
    match place with
    | .inString quote => more (if c = quote then .plain else place) closers
    | .inComparison => more .plain closers
    | .plain =>
      if Quoted.isQuote c then more (.inString c) closers
      else if c ∈ ['!', '=', '<', '>'] ∧ rest.head? = some '=' then more .inComparison closers
      else if c = '\\' then none
      else match closing? c, closers with
      | some closer, _ => more .plain (closer :: closers)
      | none, [] =>
        if c ∈ ['!', ':', '}'] then some ⟨[], shown, c :: rest⟩
        else if c = '=' then skip
        else if c ∈ [')', ']'] then none
        else if !shown then more .plain []
        else if c = ' ' then skip else none
      | none, closer :: outer =>
        if c ∈ [')', ']', '}'] then if c = closer then more .plain outer else none
        else if !shown then more .plain closers
        else if c = ' ' then skip else none

def skipConversion : List Char → Option (List Char)
  | '!' :: c :: rest =>
    if c ∈ ['s', 'r', 'a'] ∧ (rest.head? = some ':' ∨ rest.head? = some '}') then some rest
    else none
  | rest => some rest

def text : Expr := .constant .str

abbrev Values := Option (List Expr × List Char)

def format (nested : List Char → Values) (cs : List Char) : Values := do
  let isPlain := fun c => c ≠ '{' && c ≠ '}'
  let before := if (cs.takeWhile isPlain).isEmpty then [] else [text]
  match cs.dropWhile isPlain with
  | '{' :: rest =>
    let (values, rest) ← nested ('{' :: rest)
    return (before ++ values, rest)
  | rest => return (before, rest)

def field (expression : List Char → List Char → Option Expr) (nested : List Char → Values)
    (cs : List Char) : Values := do
  let written ← readExpression .plain [] false cs
  if written.text.all Text.isBlank then none
  let value ← expression cs written.text
  let rest ← skipConversion written.rest
  let (format, rest) ← match rest with
    | ':' :: rest => do
      let (values, rest) ← format nested rest
      pure (some (Expr.joinedStr values), rest)
    | rest => pure (none, rest)
  match rest with
  | '}' :: rest =>
    return ((if written.isShown then [text, text] else []) ++ [.formattedValue value format], rest)
  | _ => none

/-- The values of a template. Inside of a format, `depth` is one, and the end of the format ends
them; there are no formats inside of formats inside of formats. A backslash before a brace stands
for itself, and one at the end of a line joins two lines. -/
def values (expression : List Char → List Char → Option Expr) (isRaw : Bool) :
    (fuel depth : Nat) → (inText : Bool) → List Char → Values
  | 0, _, _, _ => none
  | fuel + 1, depth, inText, cs =>
    let afterText := fun rest => do
      let (more, rest) ← values expression isRaw fuel depth true rest
      return (if inText then more else text :: more, rest)
    if depth ≥ 2 then none
    else match cs with
    | [] => some ([], [])
    | '{' :: rest =>
      if depth = 0 ∧ rest.head? = some '{' then afterText rest.tail
      else do
        let (found, rest) ← field expression (values expression isRaw fuel (depth + 1) false) rest
        let (more, rest) ← values expression isRaw fuel depth false rest
        return (found ++ more, rest)
    | '}' :: rest =>
      if depth > 0 then some ([], cs)
      else if rest.head? = some '}' then afterText rest.tail
      else none
    | '\\' :: rest =>
      if isRaw || rest.head? = some '{' || rest.head? = some '}' then afterText rest
      else if rest.head? = some '\n' then
        values expression isRaw fuel depth inText rest.tail
      else do afterText (rest.drop (← Quoted.escapeLength false rest))
    | _ :: rest => afterText rest

def mergeTexts : List Expr → List Expr
  | .constant _ :: .constant kind :: rest => mergeTexts (.constant kind :: rest)
  | e :: rest => e :: mergeTexts rest
  | [] => []

def expression (nested : Nested) (stop : Nat) (cs text : List Char) : Option Expr := do
  let start := stop - Lexeme.byteLength cs
  let tokens ← tokens? (start - 1) false ('(' :: text ++ [')'])
  run (nested .test <* kind .newline) tokens

def ofQuoted (nested : Nested) (q : Quoted) (start : Nat) : Option (List Expr) :=
  if q.kind = .template then
    let stop := start + q.opening + Lexeme.byteLength q.body
    match values (expression nested stop) q.isRaw (q.body.length + 1) 0 false q.body with
    | some (found, []) => some found
    | _ => none
  else some [text]

def strings (nested : Nested) : Rule Expr := do
  let parts ← some1 <| accept fun t =>
    match t.kind with
    | .quoted q => some (q, t.range.start)
    | _ => none
  let kinds := parts.map (·.1.kind)
  if kinds.all (· = .bytes) then return .constant .bytes
  else if .bytes ∈ kinds then failure
  else
    let found ← parts.mapM fun (q, start) => StateT.lift (ofQuoted nested q start)
    return if .template ∈ kinds then .joinedStr (mergeTexts found.flatten) else text

end DuckTypes.Source.Grammar.Template
