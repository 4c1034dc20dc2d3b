import DuckTypes.Source.Grammar.Level

namespace DuckTypes.Source.Grammar

inductive ParameterItem where
  | plain (parameter : Parameter)
  | slash
  | star (parameter : Option VariadicParameter)
  | doubleStar (parameter : Option VariadicParameter)

namespace ParameterItem

def splitPlain : List ParameterItem → List Parameter × List ParameterItem
  | .plain p :: rest => ((p :: (splitPlain rest).1), (splitPlain rest).2)
  | rest => ([], rest)

/-- The items from the first star on. A star without a name needs parameters behind it. -/
def variadic (positionalOnly positional : List Parameter) :
    List ParameterItem → Option Parameters
  | [] => some ⟨positionalOnly, positional, [], none, none⟩
  | [.doubleStar k] => some ⟨positionalOnly, positional, [], none, k⟩
  | .star v :: rest =>
    match splitPlain rest with
    | (keywordOnly, []) =>
      if v.isNone ∧ keywordOnly.isEmpty then none
      else some ⟨positionalOnly, positional, keywordOnly, v, none⟩
    | (keywordOnly, [.doubleStar k]) => some ⟨positionalOnly, positional, keywordOnly, v, k⟩
    | _ => none
  | _ => none

def assemble (items : List ParameterItem) : Option Parameters :=
  match splitPlain items with
  | ([], .slash :: _) => none
  | (positionalOnly, .slash :: rest) =>
    let (positional, rest) := splitPlain rest
    variadic positionalOnly positional rest
  | (positional, rest) => variadic [] positional rest

end ParameterItem

def parameterNames (p : Parameters) : List String :=
  (p.positionalOnly ++ p.positional ++ p.keywordOnly).map (·.name) ++
    (p.variadic.toList ++ p.variadicKeyword.toList).map (·.name)

def isWellFormed (p : Parameters) : Bool :=
  (parameterNames p).Nodup &&
    ((p.positionalOnly ++ p.positional).dropWhile (·.default.isNone)).all (·.default.isSome)

def annotation (annotated : Bool) (rule : Rule Expr) : Rule (Option Expr) :=
  if annotated then after? ":" rule else pure none

def variadicParameter (annotated : Bool) (rule : Rule Expr) : Rule VariadicParameter := do
  return ⟨← identifier, ← annotation annotated rule⟩

def parameterItem (annotated : Bool) (nested : Nested) : Rule ParameterItem := do
  if ← isNext "/" then
    mark "/"
    return .slash
  else if ← isNext "*" then
    mark "*"
    return .star (← optional
      (variadicParameter annotated (starredOr nested (nested .test))))
  else if ← isNext "**" then
    mark "**"
    return .doubleStar (← optional (variadicParameter annotated (nested .test)))
  else
    let name ← identifier
    let annotation ← annotation annotated (nested .test)
    return .plain ⟨name, annotation, ← after? "=" (nested .test)⟩

def parameters (annotated : Bool) (nested : Nested) : Rule Parameters := do
  let items ← commas (parameterItem annotated nested)
  match ParameterItem.assemble items with
  | some p => if isWellFormed p then return p else failure
  | none => failure

end DuckTypes.Source.Grammar
