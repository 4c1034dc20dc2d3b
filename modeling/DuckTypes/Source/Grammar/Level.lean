import DuckTypes.Source.Grammar.Basic

namespace DuckTypes.Source

mutual

def Expr.inContext (context : Context) : Expr → Expr
  | .name n => .name { n with context }
  | .tuple elements => .tuple (inContextAll context elements)
  | .list elements => .list (inContextAll context elements)
  | .starred value => .starred (value.inContext context)
  | e => e

def inContextAll (context : Context) : List Expr → List Expr
  | [] => []
  | e :: rest => e.inContext context :: inContextAll context rest

end

def Expr.isStarred : Expr → Bool
  | .starred _ => true
  | _ => false

namespace Grammar

inductive Level where
  | test
  | disjunction
  | arithmetic
  deriving DecidableEq, Repr

abbrev Nested := Level → Rule Expr

def isNameBefore (spelling : String) : Rule Bool := fun tokens =>
  let found := match (tokens.take 2).map Token.kind with
    | [.name _, .mark s] => s = spelling
    | _ => false
  some (found, tokens)

def namedTest (nested : Nested) : Rule Expr := do
  if ← isNameBefore ":=" then
    let target ← nameFor .store
    mark ":="
    return .namedExpr target (← nested .test)
  else nested .test

def starred (nested : Nested) : Rule Expr := do
  mark "*"
  return .starred (← nested .arithmetic)

def starredOr (nested : Nested) (rule : Rule Expr) : Rule Expr := do
  if ← isNext "*" then starred nested else rule

def element (nested : Nested) : Rule Expr := starredOr nested (namedTest nested)

def ofCommas : List Expr × Bool → Expr
  | ([e], false) => e
  | (items, _) => .tuple items

def tupleOr (rule : Rule Expr) : Rule Expr := ofCommas <$> commas1 rule

def tests (nested : Nested) : Rule Expr := tupleOr (starredOr nested (nested .test))

def loopTarget (nested : Nested) : Rule Expr := do
  let target ← tupleOr (starredOr nested (nested .arithmetic))
  return target.inContext .store

def yielded (nested : Nested) : Rule Expr := do
  mark "yield"
  if ← isNext "from" then
    mark "from"
    return .yieldFrom (← nested .test)
  else return .yield (← optional (tests nested))

def testsOrYielded (nested : Nested) : Rule Expr := do
  if ← isNext "yield" then yielded nested else tests nested

end Grammar

end DuckTypes.Source
