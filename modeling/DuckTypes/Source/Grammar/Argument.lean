import DuckTypes.Source.Grammar.Level

namespace DuckTypes.Source.Grammar

def isFor : Rule Bool := do
  return (← isNext "for") || (← isNext "async")

def comprehension (nested : Nested) : Rule Comprehension := do
  let isAsync := (← optional (mark "async")).isSome
  mark "for"
  let target ← loopTarget nested
  mark "in"
  let iter ← nested .disjunction
  let conditions ← many (mark "if" *> nested .disjunction)
  return ⟨target, iter, conditions, isAsync⟩

def comprehensions (nested : Nested) : Rule (List Comprehension) := some1 (comprehension nested)

inductive Argument where
  | positional (value : Expr)
  | keyword (keyword : Keyword)

def argument (nested : Nested) : Rule Argument := do
  if ← isNext "*" then
    mark "*"
    return .positional (.starred (← nested .test))
  else if ← isNext "**" then
    mark "**"
    return .keyword ⟨none, ← nested .test⟩
  else if ← isNameBefore "=" then
    let name ← identifier
    mark "="
    return .keyword ⟨some name, ← nested .test⟩
  else
    let value ← namedTest nested
    if ← isFor then return .positional (.generatorExp value (← comprehensions nested))
    else return .positional value

namespace Argument

def positional? : Argument → Option Expr
  | positional value => some value
  | keyword _ => none

def keyword? : Argument → Option Keyword
  | keyword k => some k
  | positional _ => none

def mayFollow (k : Keyword) : Argument → Bool
  | keyword _ => true
  | positional value => value.isStarred && k.name.isSome

def isOrdered : List Argument → Bool
  | [] => true
  | .keyword k :: rest => rest.all (mayFollow k) && isOrdered rest
  | .positional _ :: rest => isOrdered rest

end Argument

def arguments (nested : Nested) : Rule (List Expr × List Keyword) := do
  let items ← commas (argument nested)
  let keywords := items.filterMap Argument.keyword?
  if Argument.isOrdered items ∧ (keywords.filterMap (·.name)).Nodup then
    return (items.filterMap Argument.positional?, keywords)
  else failure

end DuckTypes.Source.Grammar
