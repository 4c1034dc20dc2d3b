import DuckTypes.Source.Grammar.Atom
import DuckTypes.Source.Grammar.Parameter

namespace DuckTypes.Source.Grammar

def sliceFrom (nested : Nested) (lower : Option Expr) : Rule Expr := do
  mark ":"
  let upper ← optional (nested .test)
  let step ← after? ":" (optional (nested .test))
  return .slice lower upper step.join

def index (nested : Nested) : Rule Expr := do
  if ← isNext ":" then sliceFrom nested none
  else if (← isNext "*") || (← isNameBefore ":=") then element nested
  else
    let e ← nested .test
    if ← isNext ":" then sliceFrom nested (some e) else return e

def trailer (nested : Nested) : Rule (Expr → Expr) := do
  if ← isNext "(" then
    let (positional, keywords) ← between "(" ")" (arguments nested)
    return (.call · positional keywords)
  else if ← isNext "[" then
    let i ← between "[" "]" (tupleOr (index nested))
    return (.subscript · i)
  else
    mark "."
    let name ← identifier
    return (.attr · name)

def primary (nested : Nested) : Rule Expr := do
  let await ← optional (mark "await")
  let first ← atom nested
  let value := (← many (trailer nested)).foldl (fun e f => f e) first
  return if await.isSome then .await value else value

def wrap (operators : Nat) (e : Expr) : Expr := Nat.repeat .unaryOp operators e

def ofPowers (operators : Nat) (e : Expr) : List (Nat × Expr) → Expr
  | [] => wrap operators e
  | (next, f) :: rest => wrap operators (.binOp e (ofPowers next f rest))

def signed (nested : Nested) : Rule (Nat × Expr) := do
  let signs ← many (oneOf ["+", "-", "~"])
  return (signs.length, ← primary nested)

def factor (nested : Nested) : Rule Expr := do
  let (signs, first) ← signed nested
  return ofPowers signs first (← many (mark "**" *> signed nested))

def leftChain (operand : Rule Expr) (operators : List String) : Rule Expr := do
  let first ← operand
  return (← many (oneOf operators *> operand)).foldl .binOp first

def binaryOperators : List (List String) :=
  [["*", "/", "//", "%", "@"], ["+", "-"], ["<<", ">>"], ["&"], ["^"], ["|"]]

def arithmetic (nested : Nested) : Rule Expr := binaryOperators.foldl leftChain (factor nested)

def comparisonOperator : Rule Unit :=
  (do let _ ← oneOf ["==", "!=", "<", "<=", ">", ">=", "in"]) <|>
  (mark "not" *> mark "in") <|>
  (do mark "is"; let _ ← optional (mark "not"))

def comparison (nested : Nested) : Rule Expr := do
  let left ← arithmetic nested
  match ← many (comparisonOperator *> arithmetic nested) with
  | [] => return left
  | comparators => return .compare left comparators

def negation (nested : Nested) : Rule Expr := do
  let negations ← many (mark "not")
  return wrap negations.length (← comparison nested)

def booleans (operand : Rule Expr) (operator : String) : Rule Expr := do
  match ← sepBy1 operand (mark operator) with
  | [e] => return e
  | values => return .boolOp values

def disjunction (nested : Nested) : Rule Expr := booleans (booleans (negation nested) "and") "or"

def lambda (nested : Nested) : Rule Expr := do
  mark "lambda"
  let p ← parameters false nested
  mark ":"
  return .lambda p (← nested .test)

def condition (nested : Nested) : Rule (Expr × Expr) := do
  mark "if"
  let test ← disjunction nested
  mark "else"
  return (test, ← nested .test)

def test (nested : Nested) : Rule Expr := do
  if ← isNext "lambda" then lambda nested
  else
    let body ← disjunction nested
    match ← optional (condition nested) with
    | some (test, orElse) => return .ifExp test body orElse
    | none => return body

def expression : Nat → Nested
  | 0, _ => failure
  | depth + 1, .test => test (expression depth)
  | depth + 1, .disjunction => disjunction (expression depth)
  | depth + 1, .arithmetic => arithmetic (expression depth)

end DuckTypes.Source.Grammar
