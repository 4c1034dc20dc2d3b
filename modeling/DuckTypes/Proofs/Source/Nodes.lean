import Mathlib.Algebra.BigOperators.Group.Multiset.Basic
import Mathlib.Tactic.Abel
import DuckTypes.Source.Node

/-!
The nodes of a syntax tree, read off its shape: a node and the nodes of all its fields, in the
order in which the fields are declared. A node's own nodes are itself and those of its children
(`Node.nodes_eq`), so that whoever goes from node to children meets each node once.
-/

namespace DuckTypes.Source

mutual

def Expr.nodes (e : Expr) : Multiset Node :=
  .expr e ::ₘ match e with
    | .boolOp values => Expr.listNodes values
    | .namedExpr target value => target.nodes + value.nodes
    | .binOp left right => left.nodes + right.nodes
    | .unaryOp operand => operand.nodes
    | .lambda parameters body => parameters.nodes + body.nodes
    | .ifExp test body orElse => test.nodes + body.nodes + orElse.nodes
    | .dict keys values => Expr.keyNodes keys + Expr.listNodes values
    | .set elements => Expr.listNodes elements
    | .listComp element generators => element.nodes + Comprehension.listNodes generators
    | .setComp element generators => element.nodes + Comprehension.listNodes generators
    | .dictComp key value generators =>
      key.nodes + value.nodes + Comprehension.listNodes generators
    | .generatorExp element generators => element.nodes + Comprehension.listNodes generators
    | .await value => value.nodes
    | .yield value => Expr.optionNodes value
    | .yieldFrom value => value.nodes
    | .compare left comparators => left.nodes + Expr.listNodes comparators
    | .call function arguments keywords =>
      function.nodes + Expr.listNodes arguments + Keyword.listNodes keywords
    | .formattedValue value format => value.nodes + Expr.optionNodes format
    | .joinedStr values => Expr.listNodes values
    | .constant _ => 0
    | .attr value _ => value.nodes
    | .subscript value index => value.nodes + index.nodes
    | .starred value => value.nodes
    | .name _ => 0
    | .list elements => Expr.listNodes elements
    | .tuple elements => Expr.listNodes elements
    | .slice lower upper step =>
      Expr.optionNodes lower + Expr.optionNodes upper + Expr.optionNodes step

def Expr.listNodes : List Expr → Multiset Node
  | [] => 0
  | e :: es => e.nodes + Expr.listNodes es

def Expr.optionNodes : Option Expr → Multiset Node
  | none => 0
  | some e => e.nodes

def Expr.keyNodes : List (Option Expr) → Multiset Node
  | [] => 0
  | k :: ks => Expr.optionNodes k + Expr.keyNodes ks

def Comprehension.nodes (g : Comprehension) : Multiset Node :=
  .comprehension g ::ₘ match g with
    | ⟨target, iter, conditions, _⟩ => target.nodes + iter.nodes + Expr.listNodes conditions

def Comprehension.listNodes : List Comprehension → Multiset Node
  | [] => 0
  | g :: gs => g.nodes + Comprehension.listNodes gs

def Keyword.nodes : Keyword → Multiset Node
  | ⟨_, value⟩ => value.nodes

def Keyword.listNodes : List Keyword → Multiset Node
  | [] => 0
  | k :: ks => k.nodes + Keyword.listNodes ks

def Parameter.nodes : Parameter → Multiset Node
  | ⟨_, annotation, default⟩ => Expr.optionNodes annotation + Expr.optionNodes default

def Parameter.listNodes : List Parameter → Multiset Node
  | [] => 0
  | p :: ps => p.nodes + Parameter.listNodes ps

def VariadicParameter.nodes : VariadicParameter → Multiset Node
  | ⟨_, annotation⟩ => Expr.optionNodes annotation

def VariadicParameter.optionNodes : Option VariadicParameter → Multiset Node
  | none => 0
  | some p => p.nodes

def Parameters.nodes (p : Parameters) : Multiset Node :=
  .parameters p ::ₘ match p with
    | ⟨positionalOnly, positional, keywordOnly, variadic, variadicKeyword⟩ =>
      Parameter.listNodes positionalOnly + Parameter.listNodes positional +
        Parameter.listNodes keywordOnly + VariadicParameter.optionNodes variadic +
        VariadicParameter.optionNodes variadicKeyword

end

mutual

def Pattern.nodes (p : Pattern) : Multiset Node :=
  .pattern p ::ₘ match p with
    | .matchValue value => value.nodes
    | .matchSingleton => 0
    | .matchSequence patterns => Pattern.listNodes patterns
    | .matchMapping keys patterns => Expr.listNodes keys + Pattern.listNodes patterns
    | .matchClass constructor patterns keywordPatterns =>
      constructor.nodes + Pattern.listNodes patterns + Pattern.listNodes keywordPatterns
    | .matchStar => 0
    | .matchAs pattern => Pattern.optionNodes pattern
    | .matchOr patterns => Pattern.listNodes patterns

def Pattern.listNodes : List Pattern → Multiset Node
  | [] => 0
  | p :: ps => p.nodes + Pattern.listNodes ps

def Pattern.optionNodes : Option Pattern → Multiset Node
  | none => 0
  | some p => p.nodes

end

def TypeParam.nodes : TypeParam → Multiset Node
  | .typeVar _ bound => Expr.optionNodes bound
  | .paramSpec _ | .typeVarTuple _ => 0

def TypeParam.listNodes (params : List TypeParam) : Multiset Node :=
  (params.map TypeParam.nodes).sum

def WithItem.nodes (item : WithItem) : Multiset Node :=
  item.context.nodes + Expr.optionNodes item.target

def WithItem.listNodes (items : List WithItem) : Multiset Node := (items.map WithItem.nodes).sum

mutual

def Stmt.nodes (s : Stmt) : Multiset Node :=
  .stmt s ::ₘ match s with
    | .functionDef _ _ parameters body decorators returns typeParams =>
      parameters.nodes + Stmt.listNodes body + Expr.listNodes decorators +
        Expr.optionNodes returns + TypeParam.listNodes typeParams
    | .classDef _ bases keywords body decorators typeParams =>
      Expr.listNodes bases + Keyword.listNodes keywords + Stmt.listNodes body +
        Expr.listNodes decorators + TypeParam.listNodes typeParams
    | .returnValue value => Expr.optionNodes value
    | .delete targets => Expr.listNodes targets
    | .assign targets value => Expr.listNodes targets + value.nodes
    | .typeAlias name typeParams value =>
      name.nodes + TypeParam.listNodes typeParams + value.nodes
    | .augAssign target value => target.nodes + value.nodes
    | .annAssign target annotation value =>
      target.nodes + annotation.nodes + Expr.optionNodes value
    | .forLoop _ target iter body orElse =>
      target.nodes + iter.nodes + Stmt.listNodes body + Stmt.listNodes orElse
    | .whileLoop test body orElse => test.nodes + Stmt.listNodes body + Stmt.listNodes orElse
    | .ifElse test body orElse => test.nodes + Stmt.listNodes body + Stmt.listNodes orElse
    | .withItems _ items body => WithItem.listNodes items + Stmt.listNodes body
    | .matchCases subject cases => subject.nodes + MatchCase.listNodes cases
    | .raise exception cause => Expr.optionNodes exception + Expr.optionNodes cause
    | .tryExcept _ body handlers orElse finalBody =>
      Stmt.listNodes body + Handler.listNodes handlers + Stmt.listNodes orElse +
        Stmt.listNodes finalBody
    | .assert test message => test.nodes + Expr.optionNodes message
    | .expr value => value.nodes
    | .simple _ => 0

def Stmt.listNodes : List Stmt → Multiset Node
  | [] => 0
  | s :: ss => s.nodes + Stmt.listNodes ss

def MatchCase.nodes : MatchCase → Multiset Node
  | ⟨pattern, guard, body⟩ => pattern.nodes + Expr.optionNodes guard + Stmt.listNodes body

def MatchCase.listNodes : List MatchCase → Multiset Node
  | [] => 0
  | c :: cs => c.nodes + MatchCase.listNodes cs

def Handler.nodes : Handler → Multiset Node
  | ⟨type, body⟩ => Expr.optionNodes type + Stmt.listNodes body

def Handler.listNodes : List Handler → Multiset Node
  | [] => 0
  | h :: hs => h.nodes + Handler.listNodes hs

end

def Root.nodes (r : Root) : Multiset Node :=
  .root r ::ₘ match r with
    | .module body | .interactive body => Stmt.listNodes body
    | .expression body => body.nodes
    | .functionType arguments returns => Expr.listNodes arguments + returns.nodes

namespace Node

def nodes : Node → Multiset Node
  | root r => r.nodes
  | stmt s => s.nodes
  | expr e => e.nodes
  | pattern p => p.nodes
  | parameters p => p.nodes
  | comprehension g => g.nodes

def nodesAmong (ns : List Node) : Multiset Node := (ns.map nodes).sum

@[simp]
theorem nodesAmong_nil : nodesAmong [] = 0 := rfl

@[simp]
theorem nodesAmong_cons (n : Node) (ns : List Node) :
    nodesAmong (n :: ns) = n.nodes + nodesAmong ns := by
  simp [nodesAmong]

@[simp]
theorem nodesAmong_append (ms ns : List Node) :
    nodesAmong (ms ++ ns) = nodesAmong ms + nodesAmong ns := by
  simp [nodesAmong]

theorem nodesAmong_flatMap {α : Type} {f : α → List Node} {total : List α → Multiset Node}
    (hnil : total [] = 0) (hcons : ∀ a items, total (a :: items) = nodesAmong (f a) + total items)
    (items : List α) : nodesAmong (items.flatMap f) = total items := by
  induction items with
  | nil => simp [hnil]
  | cons a items ih => simp [hcons, ih]

@[simp]
theorem nodesAmong_exprs (es : List Expr) : nodesAmong (exprs es) = Expr.listNodes es := by
  induction es with
  | nil => simp [exprs, Expr.listNodes]
  | cons e es ih => simpa [exprs, Expr.listNodes, nodes] using ih

@[simp]
theorem nodesAmong_exprs? (e : Option Expr) : nodesAmong (exprs? e) = Expr.optionNodes e := by
  cases e <;> simp [exprs?, Expr.listNodes, Expr.optionNodes]

@[simp]
theorem nodesAmong_keys (keys : List (Option Expr)) :
    nodesAmong (keys.flatMap exprs?) = Expr.keyNodes keys := by
  apply nodesAmong_flatMap
  · simp [Expr.keyNodes]
  · simp [Expr.keyNodes]

@[simp]
theorem nodesAmong_stmts (ss : List Stmt) : nodesAmong (stmts ss) = Stmt.listNodes ss := by
  induction ss with
  | nil => simp [stmts, Stmt.listNodes]
  | cons s ss ih => simpa [stmts, Stmt.listNodes, nodes] using ih

@[simp]
theorem nodesAmong_patterns (ps : List Pattern) :
    nodesAmong (patterns ps) = Pattern.listNodes ps := by
  induction ps with
  | nil => simp [patterns, Pattern.listNodes]
  | cons p ps ih => simpa [patterns, Pattern.listNodes, nodes] using ih

@[simp]
theorem listNodes_toList (p : Option Pattern) :
    Pattern.listNodes p.toList = Pattern.optionNodes p := by
  cases p <;> simp [Pattern.listNodes, Pattern.optionNodes]

@[simp]
theorem nodesAmong_comprehensions (gs : List Comprehension) :
    nodesAmong (comprehensions gs) = Comprehension.listNodes gs := by
  induction gs with
  | nil => simp [comprehensions, Comprehension.listNodes]
  | cons g gs ih => simpa [comprehensions, Comprehension.listNodes, nodes] using ih

@[simp]
theorem nodesAmong_keywords (ks : List Keyword) :
    nodesAmong (keywords ks) = Keyword.listNodes ks := by
  induction ks with
  | nil => simp [keywords, Keyword.listNodes]
  | cons k ks ih =>
    obtain ⟨name, value⟩ := k
    simpa [keywords, Keyword.listNodes, Keyword.nodes, nodes] using ih

@[simp]
theorem nodesAmong_parameters (ps : List Parameter) :
    nodesAmong (ps.flatMap parameter) = Parameter.listNodes ps := by
  apply nodesAmong_flatMap
  · simp [Parameter.listNodes]
  · rintro ⟨name, annotation, default⟩ ps
    simp [Parameter.listNodes, Parameter.nodes, parameter]

@[simp]
theorem nodesAmong_variadicParameter? (p : Option VariadicParameter) :
    nodesAmong (p.toList.flatMap variadicParameter) = VariadicParameter.optionNodes p := by
  obtain _ | ⟨name, annotation⟩ := p
  · simp [VariadicParameter.optionNodes]
  · simp [VariadicParameter.optionNodes, VariadicParameter.nodes, variadicParameter]

@[simp]
theorem nodesAmong_typeParams (params : List TypeParam) :
    nodesAmong (typeParams params) = TypeParam.listNodes params := by
  apply nodesAmong_flatMap
  · simp [TypeParam.listNodes]
  · rintro (⟨name, bound⟩ | name | name) params <;> simp [TypeParam.listNodes, TypeParam.nodes]

@[simp]
theorem nodesAmong_withItems (items : List WithItem) :
    nodesAmong (withItems items) = WithItem.listNodes items := by
  apply nodesAmong_flatMap
  · simp [WithItem.listNodes]
  · simp [WithItem.listNodes, WithItem.nodes, nodes]

@[simp]
theorem nodesAmong_matchCases (cases : List MatchCase) :
    nodesAmong (cases.flatMap matchCase) = MatchCase.listNodes cases := by
  apply nodesAmong_flatMap
  · simp [MatchCase.listNodes]
  · rintro ⟨pattern, guard, body⟩ cases
    simp [MatchCase.listNodes, MatchCase.nodes, matchCase, nodes, add_assoc]

@[simp]
theorem nodesAmong_handlers (handlers : List Handler) :
    nodesAmong (handlers.flatMap handler) = Handler.listNodes handlers := by
  apply nodesAmong_flatMap
  · simp [Handler.listNodes]
  · rintro ⟨type, body⟩ handlers
    simp [Handler.listNodes, Handler.nodes, handler]

theorem nodes_root (r : Root) : r.nodes = root r ::ₘ nodesAmong (ofRoot r) := by
  cases r <;> simp [Root.nodes, ofRoot, nodes]

/- The fields of a node are declared in one order and visited in another, so that each case below
is a rearrangement. -/

theorem nodes_stmt (s : Stmt) : s.nodes = stmt s ::ₘ nodesAmong (ofStmt s) := by
  cases s <;> simp [Stmt.nodes, ofStmt, nodes] <;> abel

theorem nodes_expr (e : Expr) : e.nodes = expr e ::ₘ nodesAmong (ofExpr e) := by
  cases e <;> simp [Expr.nodes, ofExpr, nodes] <;> abel

theorem nodes_pattern (p : Pattern) : p.nodes = pattern p ::ₘ nodesAmong (ofPattern p) := by
  cases p <;> simp [Pattern.nodes, ofPattern, nodes, add_assoc]

theorem nodes_parameters (p : Parameters) :
    p.nodes = parameters p ::ₘ nodesAmong (ofParameters p) := by
  obtain ⟨positionalOnly, positional, keywordOnly, variadic, variadicKeyword⟩ := p
  simp [Parameters.nodes, ofParameters]
  abel

theorem nodes_comprehension (g : Comprehension) :
    g.nodes = comprehension g ::ₘ nodesAmong (ofComprehension g) := by
  obtain ⟨target, iter, conditions, isAsync⟩ := g
  simp [Comprehension.nodes, ofComprehension, nodes]
  abel

theorem nodes_eq (n : Node) : n.nodes = n ::ₘ nodesAmong n.children := by
  cases n with
  | root r => exact nodes_root r
  | stmt s => exact nodes_stmt s
  | expr e => exact nodes_expr e
  | pattern p => exact nodes_pattern p
  | parameters p => exact nodes_parameters p
  | comprehension g => exact nodes_comprehension g

end Node

end DuckTypes.Source
