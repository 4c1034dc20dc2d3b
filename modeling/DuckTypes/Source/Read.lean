import DuckTypes.Source.Grammar.Case
import DuckTypes.Source.Grammar.Expression
import DuckTypes.Source.Grammar.Simple

namespace DuckTypes.Source.Grammar

abbrev Suite := Rule (List Stmt)

def colon (suite : Suite) : Suite := mark ":" *> suite

def optionalSuite (keyword : String) (suite : Suite) : Suite := do
  return (← after? keyword (colon suite)).getD []

def branch (keyword : String) (nested : Nested) (suite : Suite) : Rule (Expr × List Stmt) := do
  mark keyword
  let test ← namedTest nested
  return (test, ← colon suite)

def conditional (nested : Nested) (suite : Suite) : Rule Stmt := do
  let (test, body) ← branch "if" nested suite
  let more ← many (branch "elif" nested suite)
  let last ← optionalSuite "else" suite
  return .ifElse test body (more.foldr (fun (test, body) rest => [.ifElse test body rest]) last)

def whileLoop (nested : Nested) (suite : Suite) : Rule Stmt := do
  let (test, body) ← branch "while" nested suite
  return .whileLoop test body (← optionalSuite "else" suite)

def forLoop (nested : Nested) (suite : Suite) (isAsync : Bool) : Rule Stmt := do
  mark "for"
  let target ← loopTarget nested
  mark "in"
  let iter ← tests nested
  let body ← colon suite
  return .forLoop isAsync target iter body (← optionalSuite "else" suite)

def withItem (nested : Nested) : Rule WithItem := do
  let context ← nested .test
  let target ← after? "as" (nested .arithmetic)
  return ⟨context, target.map (Expr.inContext .store)⟩

def withItems (nested : Nested) : Rule (List WithItem) :=
  (between "(" ")" (Prod.fst <$> commas1 (withItem nested)) <* mark ":") <|>
    (sepBy1 (withItem nested) (mark ",") <* mark ":")

def withStatement (nested : Nested) (suite : Suite) (isAsync : Bool) : Rule Stmt := do
  mark "with"
  let items ← withItems nested
  return .withItems isAsync items (← suite)

def handler (nested : Nested) (suite : Suite) : Rule (Bool × Handler) := do
  mark "except"
  let star ← optional (mark "*")
  if ← isNext ":" then
    if star.isSome then failure else return (false, ⟨none, ← colon suite⟩)
  else
    let type ← nested .test
    let _ ← after? "as" identifier
    return (star.isSome, ⟨type, ← colon suite⟩)

def tryStatement (nested : Nested) (suite : Suite) : Rule Stmt := do
  mark "try"
  let body ← colon suite
  let handlers ← many (handler nested suite)
  if handlers.isEmpty then
    mark "finally"
    return .tryExcept false body [] [] (← colon suite)
  else
    let isGroup := handlers.any (·.1)
    if !handlers.all (·.1 = isGroup) then failure
    let orElse ← optionalSuite "else" suite
    let finalBody ← optionalSuite "finally" suite
    return .tryExcept isGroup body (handlers.map (·.2)) orElse finalBody

def functionDef (nested : Nested) (suite : Suite) (decorators : List Expr) (isAsync : Bool) :
    Rule Stmt := do
  mark "def"
  let name ← identifier
  let generics ← typeParams nested
  let p ← between "(" ")" (parameters true nested)
  let returns ← after? "->" (nested .test)
  return .functionDef isAsync name p (← colon suite) decorators returns generics

def classDef (nested : Nested) (suite : Suite) (decorators : List Expr) : Rule Stmt := do
  mark "class"
  let name ← identifier
  let generics ← typeParams nested
  let (bases, keywords) ← do
    if ← isNext "(" then between "(" ")" (arguments nested) else pure ([], [])
  return .classDef name bases keywords (← colon suite) decorators generics

def definition (nested : Nested) (suite : Suite) : Rule Stmt := do
  let decorators ← many (mark "@" *> namedTest nested <* kind .newline)
  if ← isNext "class" then classDef nested suite decorators
  else
    let async ← optional (mark "async")
    functionDef nested suite decorators async.isSome

def asyncStatement (nested : Nested) (suite : Suite) : Rule Stmt := do
  mark "async"
  if ← isNext "for" then forLoop nested suite true else withStatement nested suite true

def matchCase (nested : Nested) (pattern : Rule Pattern) (suite : Suite) : Rule MatchCase := do
  mark "case"
  let p ← casePattern pattern
  let guard ← after? "if" (namedTest nested)
  return ⟨p, guard, ← colon suite⟩

def matchSubject (nested : Nested) : Rule Expr := do
  match ← commas1 (element nested) with
  | ([e], _) => return e
  | (items, _) => return .tuple items

def matchStatement (nested : Nested) (pattern : Rule Pattern) (suite : Suite) : Rule Stmt := do
  mark "match"
  let subject ← matchSubject nested
  mark ":"
  kind .newline
  kind .indent
  let cases ← some1 (matchCase nested pattern suite)
  kind .dedent
  return .matchCases subject cases

def compoundStatement (nested : Nested) (pattern : Rule Pattern) (suite : Suite) : Rule Stmt :=
  conditional nested suite <|> whileLoop nested suite <|> forLoop nested suite false <|>
  withStatement nested suite false <|> tryStatement nested suite <|>
  definition nested suite <|> asyncStatement nested suite <|>
  matchStatement nested pattern suite

def suiteOf (nested : Nested) (statement : Rule (List Stmt)) : Suite :=
  simpleLine nested <|> do
    kind .newline
    kind .indent
    let statements ← some1 statement
    kind .dedent
    return statements.flatten

def statement (nested : Nested) : Nat → Rule (List Stmt)
  | 0 => failure
  | depth + 1 =>
    simpleLine nested <|>
      List.singleton <$> compoundStatement nested (pattern nested depth)
        (suiteOf nested (statement nested depth))

end DuckTypes.Source.Grammar

namespace DuckTypes.Source

def byteOrderMark : Char := Char.ofNat 0xFEFF

def moduleRule (depth : Nat) : Grammar.Rule (List Stmt) := do
  let statement := Grammar.statement (Grammar.expression depth) depth
  return (← Grammar.many (statement <|> Grammar.kind .newline *> pure [])).flatten

/-- The tree of a module, if its source is well formed. Whatever is nested takes a character at
least, so nothing is nested deeper than the source is long. -/
def Root.read (source : String) : Option Root := do
  let cs := source.toList
  let (start, cs) := if cs.head? = some byteOrderMark
    then (byteOrderMark.utf8Size, cs.tail) else (0, cs)
  let tokens ← tokens? start true cs
  return .module (← Grammar.run (moduleRule (cs.length + 1)) tokens)

end DuckTypes.Source
