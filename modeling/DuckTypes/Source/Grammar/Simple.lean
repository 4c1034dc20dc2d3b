import DuckTypes.Source.Grammar.Level

namespace DuckTypes.Source.Grammar

def assignment (nested : Nested) : Rule Stmt := do
  let items ← commas1 (starredOr nested (nested .test))
  let first := ofCommas items
  let isSingle := items.1.length = 1 ∧ !items.2 ∧ !first.isStarred
  if ← isNext "=" then
    let values := (← some1 (mark "=" *> testsOrYielded nested)).reverse
    match values with
    | value :: targets =>
      return .assign ((first :: targets.reverse).map (Expr.inContext .store)) value
    | [] => failure
  else if (← isNext ":") && isSingle then
    mark ":"
    let annotation ← nested .test
    return .annAssign (first.inContext .store) annotation
      (← after? "=" (testsOrYielded nested))
  else
    match ← optional (oneOf ["+=", "-=", "*=", "/=", "//=", "%=", "@=", "&=", "|=", "^=", "<<=",
      ">>=", "**="]) with
    | some _ => return .augAssign (first.inContext .store) (← testsOrYielded nested)
    | none => return .expr first

def deletion (nested : Nested) : Rule Stmt := do
  mark "del"
  let (targets, _) ← commas1 (starredOr nested (nested .arithmetic))
  return .delete (targets.map (Expr.inContext .del))

def raising (nested : Nested) : Rule Stmt := do
  mark "raise"
  match ← optional (nested .test) with
  | none => return .raise none none
  | some exception => return .raise exception (← after? "from" (nested .test))

def assertion (nested : Nested) : Rule Stmt := do
  mark "assert"
  let test ← nested .test
  return .assert test (← after? "," (nested .test))

def dottedIdentifier : Rule Unit := do
  let _ ← sepBy1 identifier (mark ".")

def aliased (imported : Rule Unit) : Rule Unit := do
  imported
  let _ ← after? "as" identifier

def importStatement : Rule Stmt := do
  mark "import"
  let _ ← sepBy1 (aliased dottedIdentifier) (mark ",")
  return .simple .importModule

def importSource : Rule Unit := do
  let dots ← many (oneOf [".", "..."])
  if dots.isEmpty then dottedIdentifier else let _ ← optional dottedIdentifier

def importFrom : Rule Stmt := do
  mark "from"
  importSource
  mark "import"
  let name := aliased (do let _ ← identifier)
  if ← isNext "*" then mark "*"
  else if ← isNext "(" then let _ ← between "(" ")" (commas1 name)
  else let _ ← sepBy1 name (mark ",")
  return .simple .importFrom

def declaration (keyword : String) (kind : SimpleStmt) : Rule Stmt := do
  mark keyword
  let _ ← sepBy1 identifier (mark ",")
  return .simple kind

def typeParam (nested : Nested) : Rule TypeParam := do
  if ← isNext "*" then
    mark "*"
    return .typeVarTuple (← identifier)
  else if ← isNext "**" then
    mark "**"
    return .paramSpec (← identifier)
  else
    let name ← identifier
    return .typeVar name (← after? ":" (nested .test))

def typeParams (nested : Nested) : Rule (List TypeParam) := do
  if ← isNext "[" then Prod.fst <$> between "[" "]" (commas1 (typeParam nested)) else return []

def typeAlias (nested : Nested) : Rule Stmt := do
  mark "type"
  let name ← nameFor .store
  let params ← typeParams nested
  mark "="
  return .typeAlias name params (← nested .test)

def word (keyword : String) (kind : SimpleStmt) : Rule Stmt :=
  mark keyword *> pure (.simple kind)

def simpleStatement (nested : Nested) : Rule Stmt :=
  assignment nested <|> (.expr <$> yielded nested) <|>
  (do mark "return"; return .returnValue (← optional (tests nested))) <|>
  word "pass" .pass <|> word "break" .breakLoop <|> word "continue" .continueLoop <|>
  deletion nested <|> raising nested <|> assertion nested <|> importStatement <|> importFrom <|>
  declaration "global" .globalNames <|> declaration "nonlocal" .nonlocalNames <|>
  typeAlias nested

def simpleLine (nested : Nested) : Rule (List Stmt) := do
  let statements ← sepBy1 (simpleStatement nested) (mark ";")
  let _ ← optional (mark ";")
  kind .newline
  return statements

end DuckTypes.Source.Grammar
