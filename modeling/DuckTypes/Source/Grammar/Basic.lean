import DuckTypes.Source.Token

namespace DuckTypes.Source.Grammar

abbrev Rule := StateT (List Token) Option

def accept (f : Token → Option α) : Rule α := fun tokens =>
  match tokens with
  | [] => none
  | t :: rest => (f t).map (·, rest)

def kind (k : TokenKind) : Rule Unit := accept fun t => if t.kind = k then some () else none

def mark (spelling : String) : Rule Unit := kind (.mark spelling)

def oneOf (spellings : List String) : Rule String := accept fun t =>
  match t.kind with
  | .mark spelling => if spelling ∈ spellings then some spelling else none
  | _ => none

def identifier : Rule String := accept fun t =>
  match t.kind with
  | .name id => some id
  | _ => none

def nameFor (context : Context) : Rule Expr := accept fun t =>
  match t.kind with
  | .name id => some (.name ⟨id, context, t.range⟩)
  | _ => none

def isNext (spelling : String) : Rule Bool := fun tokens =>
  some ((tokens.head?.map Token.kind) = some (.mark spelling), tokens)

def upTo (rule : Rule α) : List Token → Rule (List α)
  | [] => pure []
  | _ :: fuel => fun tokens =>
    match rule tokens with
    | none => some ([], tokens)
    | some (a, rest) => (upTo rule fuel rest).map fun (more, rest) => (a :: more, rest)

def many (rule : Rule α) : Rule (List α) := fun tokens => upTo rule tokens tokens

def some1 (rule : Rule α) : Rule (List α) := do
  let first ← rule
  return first :: (← many rule)

def sepBy1 (rule : Rule α) (separator : Rule β) : Rule (List α) := do
  let first ← rule
  return first :: (← many (separator *> rule))

def commas1 (rule : Rule α) : Rule (List α × Bool) := do
  let items ← sepBy1 rule (mark ",")
  let comma ← optional (mark ",")
  return (items, comma.isSome)

def commas (rule : Rule α) : Rule (List α) := (Prod.fst <$> commas1 rule) <|> pure []

def between (opening closing : String) (rule : Rule α) : Rule α :=
  mark opening *> rule <* mark closing

def after? (spelling : String) (rule : Rule α) : Rule (Option α) := do
  if ← isNext spelling then
    mark spelling
    some <$> rule
  else return none

def run (rule : Rule α) (tokens : List Token) : Option α :=
  match rule tokens with
  | some (a, []) => some a
  | _ => none

end DuckTypes.Source.Grammar
