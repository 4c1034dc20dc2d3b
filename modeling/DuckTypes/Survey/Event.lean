import DuckTypes.CandidateSet
import DuckTypes.Source.Node

namespace DuckTypes.Survey

open Source (Expr Name Node Range Root)

inductive Usage where
  | called | iterated | advanced
  deriving DecidableEq, Hashable, Repr

inductive Event where
  | called (name : String) (parameters : List CandidateSet)
  | iterated (name : String)
  | advanced (name : String)
  | loaded (name : String) (range : Range)

def literalType : Expr → CandidateSet
  | .constant .none => .of (.plain .none)
  | .constant .bool => .of (.plain .bool)
  | .constant .str => .of (.plain .str)
  | .constant .bytes => .of (.plain .bytes)
  | .constant .int => .of (.plain .int)
  | .constant .float => .of (.plain .float)
  | _ => ∅

def iteration : Expr → List Event
  | .name n => [.iterated n.id]
  | _ => []

def builtinUse (function : String) : List Expr → List Event
  | .name n :: _ =>
    if function = "next" then [.advanced n.id]
    else if function = "iter" then [.iterated n.id]
    else []
  | _ => []

def calling : Expr → List Expr → List Event
  | .name n, arguments => .called n.id (arguments.map literalType) :: builtinUse n.id arguments
  | _, _ => []

def reference (n : Name) : List Event :=
  match n.context with
  | .load => [.loaded n.id n.range]
  | .store | .del => []

def eventsAt : Node → List Event
  | .stmt (.forLoop false _ iter _ _) => iteration iter
  | .comprehension g => iteration g.iter
  | .expr (.call function arguments _) => calling function arguments
  | .expr (.name n) => reference n
  | _ => []

def events (r : Root) : List Event := r.visits.flatMap fun v => eventsAt v.node

end DuckTypes.Survey
