import DuckTypes.Source.Tree

namespace DuckTypes.Source

inductive Node where
  | root (root : Root)
  | stmt (stmt : Stmt)
  | expr (expr : Expr)
  | pattern (pattern : Pattern)
  | parameters (parameters : Parameters)
  | comprehension (comprehension : Comprehension)

namespace Node

def exprs (es : List Expr) : List Node := es.map expr

def exprs? (e : Option Expr) : List Node := exprs e.toList

def stmts (ss : List Stmt) : List Node := ss.map stmt

def patterns (ps : List Pattern) : List Node := ps.map pattern

def comprehensions (gs : List Comprehension) : List Node := gs.map comprehension

def keywords (ks : List Keyword) : List Node := ks.map fun k => expr k.value

def withItems (items : List WithItem) : List Node :=
  items.flatMap fun item => expr item.context :: exprs? item.target

def typeParams (params : List TypeParam) : List Node :=
  params.flatMap fun
    | .typeVar _ bound => exprs? bound
    | .paramSpec _ | .typeVarTuple _ => []

def parameter (p : Parameter) : List Node := exprs? p.annotation ++ exprs? p.default

def variadicParameter (p : VariadicParameter) : List Node := exprs? p.annotation

def matchCase (c : MatchCase) : List Node := pattern c.pattern :: exprs? c.guard ++ stmts c.body

def handler (h : Handler) : List Node := exprs? h.type ++ stmts h.body

def ofRoot : Root → List Node
  | .module body | .interactive body => stmts body
  | .expression body => [expr body]
  | .functionType arguments returns => exprs arguments ++ [expr returns]

/-- The order within a statement is roughly that of evaluation: a value comes before the target
that it is assigned to. -/
def ofStmt : Stmt → List Node
  | .functionDef _ _ params body decorators returns tparams =>
    exprs decorators ++ typeParams tparams ++ [parameters params] ++ exprs? returns ++ stmts body
  | .classDef _ bases kws body decorators tparams =>
    exprs decorators ++ typeParams tparams ++ exprs bases ++ keywords kws ++ stmts body
  | .returnValue value => exprs? value
  | .delete targets => exprs targets
  | .assign targets value => expr value :: exprs targets
  | .typeAlias name tparams value => expr name :: typeParams tparams ++ [expr value]
  | .augAssign target value => [expr target, expr value]
  | .annAssign target annotation value => expr annotation :: exprs? value ++ [expr target]
  | .forLoop _ target iter body orElse =>
    expr iter :: expr target :: stmts body ++ stmts orElse
  | .whileLoop test body orElse => expr test :: stmts body ++ stmts orElse
  | .ifElse test body orElse => expr test :: stmts body ++ stmts orElse
  | .withItems _ items body => withItems items ++ stmts body
  | .matchCases subject cases => expr subject :: cases.flatMap matchCase
  | .raise exception cause => exprs? exception ++ exprs? cause
  | .tryExcept _ body handlers orElse finalBody =>
    stmts body ++ handlers.flatMap handler ++ stmts orElse ++ stmts finalBody
  | .assert test message => expr test :: exprs? message
  | .expr value => [expr value]
  | .simple _ => []

def ofExpr : Expr → List Node
  | .boolOp values => exprs values
  | .namedExpr target value => [expr value, expr target]
  | .binOp left right => [expr left, expr right]
  | .unaryOp operand => [expr operand]
  | .lambda params body => [parameters params, expr body]
  | .ifExp test body orElse => [expr test, expr body, expr orElse]
  | .dict keys values => keys.flatMap exprs? ++ exprs values
  | .set elements => exprs elements
  | .listComp element generators => comprehensions generators ++ [expr element]
  | .setComp element generators => comprehensions generators ++ [expr element]
  | .dictComp key value generators => comprehensions generators ++ [expr key, expr value]
  | .generatorExp element generators => comprehensions generators ++ [expr element]
  | .await value => [expr value]
  | .yield value => exprs? value
  | .yieldFrom value => [expr value]
  | .compare left comparators => expr left :: exprs comparators
  | .call function arguments kws => expr function :: exprs arguments ++ keywords kws
  | .formattedValue value format => expr value :: exprs? format
  | .joinedStr values => exprs values
  | .constant _ => []
  | .attr value _ => [expr value]
  | .subscript value index => [expr value, expr index]
  | .starred value => [expr value]
  | .name _ => []
  | .list elements => exprs elements
  | .tuple elements => exprs elements
  | .slice lower upper step => exprs? lower ++ exprs? upper ++ exprs? step

def ofPattern : Pattern → List Node
  | .matchValue value => [expr value]
  | .matchSingleton => []
  | .matchSequence ps => patterns ps
  | .matchMapping keys ps => exprs keys ++ patterns ps
  | .matchClass constructor ps kps => expr constructor :: patterns ps ++ patterns kps
  | .matchStar => []
  | .matchAs p => patterns p.toList
  | .matchOr ps => patterns ps

def ofParameters (p : Parameters) : List Node :=
  (p.positionalOnly ++ p.positional ++ p.keywordOnly).flatMap parameter ++
    (p.variadic.toList ++ p.variadicKeyword.toList).flatMap variadicParameter

def ofComprehension (g : Comprehension) : List Node :=
  expr g.iter :: expr g.target :: exprs g.conditions

def children : Node → List Node
  | root r => ofRoot r
  | stmt s => ofStmt s
  | expr e => ofExpr e
  | pattern p => ofPattern p
  | parameters p => ofParameters p
  | comprehension g => ofComprehension g

section Size

variable {α : Type} [SizeOf α] {items : List α} {item : Option α} {m : Node}

theorem sizeOf_flatMap {f : α → List Node} (hf : ∀ a, ∀ m ∈ f a, sizeOf m ≤ 1 + sizeOf a)
    (h : m ∈ items.flatMap f) : sizeOf m < 1 + sizeOf items := by
  obtain ⟨a, ha, hm⟩ := List.mem_flatMap.1 h
  have := List.sizeOf_lt_of_mem ha
  have := hf a m hm
  omega

theorem sizeOf_flatMap? {f : α → List Node} (hf : ∀ a, ∀ m ∈ f a, sizeOf m ≤ 1 + sizeOf a)
    (h : m ∈ item.toList.flatMap f) : sizeOf m < 1 + sizeOf item := by
  obtain ⟨a, ha, hm⟩ := List.mem_flatMap.1 h
  obtain rfl := Option.mem_toList.1 ha
  have := hf a m hm
  simp only [Option.some.sizeOf_spec]
  omega

theorem sizeOf_map {f : α → Node} (hf : ∀ a, sizeOf (f a) ≤ 1 + sizeOf a)
    (h : m ∈ items.map f) : sizeOf m < 1 + sizeOf items := by
  rw [List.map_eq_flatMap] at h
  refine sizeOf_flatMap ?_ h
  intro a n hn
  obtain rfl := List.mem_singleton.1 hn
  exact hf a

theorem sizeOf_map? {f : α → Node} (hf : ∀ a, sizeOf (f a) ≤ 1 + sizeOf a)
    (h : m ∈ item.toList.map f) : sizeOf m < 1 + sizeOf item := by
  rw [List.map_eq_flatMap] at h
  refine sizeOf_flatMap? ?_ h
  intro a n hn
  obtain rfl := List.mem_singleton.1 hn
  exact hf a

@[grind →]
theorem sizeOf_exprs {es : List Expr} (h : m ∈ exprs es) : sizeOf m < 1 + sizeOf es :=
  sizeOf_map (fun e => Nat.le_of_eq (expr.sizeOf_spec e)) h

@[grind →]
theorem sizeOf_exprs? {e : Option Expr} (h : m ∈ exprs? e) : sizeOf m < 1 + sizeOf e :=
  sizeOf_map? (fun e => Nat.le_of_eq (expr.sizeOf_spec e)) h

@[grind →]
theorem sizeOf_stmts {ss : List Stmt} (h : m ∈ stmts ss) : sizeOf m < 1 + sizeOf ss :=
  sizeOf_map (fun s => Nat.le_of_eq (stmt.sizeOf_spec s)) h

@[grind →]
theorem sizeOf_patterns {ps : List Pattern} (h : m ∈ patterns ps) : sizeOf m < 1 + sizeOf ps :=
  sizeOf_map (fun p => Nat.le_of_eq (pattern.sizeOf_spec p)) h

@[grind →]
theorem sizeOf_pattern? {p : Option Pattern} (h : m ∈ patterns p.toList) :
    sizeOf m < 1 + sizeOf p :=
  sizeOf_map? (fun p => Nat.le_of_eq (pattern.sizeOf_spec p)) h

@[grind →]
theorem sizeOf_comprehensions {gs : List Comprehension} (h : m ∈ comprehensions gs) :
    sizeOf m < 1 + sizeOf gs :=
  sizeOf_map (fun g => Nat.le_of_eq (comprehension.sizeOf_spec g)) h

@[grind →]
theorem sizeOf_keywords {ks : List Keyword} (h : m ∈ keywords ks) : sizeOf m < 1 + sizeOf ks := by
  refine sizeOf_map ?_ h
  rintro ⟨name, value⟩
  simp only [expr.sizeOf_spec, Keyword.mk.sizeOf_spec]
  omega

@[grind →]
theorem sizeOf_withItems {items : List WithItem} (h : m ∈ withItems items) :
    sizeOf m < 1 + sizeOf items := by
  refine sizeOf_flatMap ?_ h
  rintro ⟨context, target⟩ n hn
  simp only [List.mem_cons] at hn
  simp only [WithItem.mk.sizeOf_spec]
  rcases hn with rfl | hn
  · simp only [expr.sizeOf_spec]
    omega
  · have := sizeOf_exprs? hn
    omega

@[grind →]
theorem sizeOf_typeParams {params : List TypeParam} (h : m ∈ typeParams params) :
    sizeOf m < 1 + sizeOf params := by
  refine sizeOf_flatMap ?_ h
  rintro (⟨name, bound⟩ | name | name) n hn
  · have := sizeOf_exprs? hn
    simp only [TypeParam.typeVar.sizeOf_spec]
    omega
  · simp at hn
  · simp at hn

@[grind →]
theorem sizeOf_keys {keys : List (Option Expr)} (h : m ∈ keys.flatMap exprs?) :
    sizeOf m < 1 + sizeOf keys :=
  sizeOf_flatMap (fun _ _ hm => Nat.le_of_lt (sizeOf_exprs? hm)) h

@[grind →]
theorem sizeOf_parameters {ps : List Parameter} (h : m ∈ ps.flatMap parameter) :
    sizeOf m < 1 + sizeOf ps := by
  refine sizeOf_flatMap ?_ h
  rintro ⟨name, annotation, default⟩ n hn
  simp only [parameter, List.mem_append] at hn
  simp only [Parameter.mk.sizeOf_spec]
  rcases hn with hn | hn
  · have := sizeOf_exprs? hn
    omega
  · have := sizeOf_exprs? hn
    omega

@[grind →]
theorem sizeOf_variadic? {p : Option VariadicParameter}
    (h : m ∈ p.toList.flatMap variadicParameter) : sizeOf m < 1 + sizeOf p := by
  refine sizeOf_flatMap? ?_ h
  rintro ⟨name, annotation⟩ n hn
  have : sizeOf n < 1 + sizeOf annotation := sizeOf_exprs? hn
  simp only [VariadicParameter.mk.sizeOf_spec]
  omega

@[grind →]
theorem sizeOf_matchCases {cases : List MatchCase} (h : m ∈ cases.flatMap matchCase) :
    sizeOf m < 1 + sizeOf cases := by
  refine sizeOf_flatMap ?_ h
  rintro ⟨p, guard, body⟩ n hn
  simp only [matchCase, List.cons_append, List.mem_cons, List.mem_append] at hn
  simp only [MatchCase.mk.sizeOf_spec]
  rcases hn with rfl | hn | hn
  · simp only [pattern.sizeOf_spec]
    omega
  · have := sizeOf_exprs? hn
    omega
  · have := sizeOf_stmts hn
    omega

@[grind →]
theorem sizeOf_handlers {handlers : List Handler} (h : m ∈ handlers.flatMap handler) :
    sizeOf m < 1 + sizeOf handlers := by
  refine sizeOf_flatMap ?_ h
  rintro ⟨type, body⟩ n hn
  simp only [handler, List.mem_append] at hn
  simp only [Handler.mk.sizeOf_spec]
  rcases hn with hn | hn
  · have := sizeOf_exprs? hn
    omega
  · have := sizeOf_stmts hn
    omega

end Size

theorem sizeOf_ofRoot (r : Root) (m : Node) (h : m ∈ ofRoot r) : sizeOf m < 1 + sizeOf r := by
  cases r <;> simp only [ofRoot, List.mem_append, List.mem_singleton] at h <;> grind

theorem sizeOf_ofStmt (s : Stmt) (m : Node) (h : m ∈ ofStmt s) : sizeOf m < 1 + sizeOf s := by
  cases s <;>
    simp only [ofStmt, List.mem_append, List.mem_cons, List.cons_append, List.not_mem_nil,
      or_false] at h <;>
    grind

theorem sizeOf_ofExpr (e : Expr) (m : Node) (h : m ∈ ofExpr e) : sizeOf m < 1 + sizeOf e := by
  cases e <;>
    simp only [ofExpr, List.mem_append, List.mem_cons, List.cons_append, List.not_mem_nil,
      or_false] at h <;>
    grind

theorem sizeOf_ofPattern (p : Pattern) (m : Node) (h : m ∈ ofPattern p) :
    sizeOf m < 1 + sizeOf p := by
  cases p <;>
    simp only [ofPattern, List.mem_append, List.mem_cons, List.cons_append, List.not_mem_nil,
      or_false] at h <;>
    grind

theorem sizeOf_ofParameters (p : Parameters) (m : Node) (h : m ∈ ofParameters p) :
    sizeOf m < 1 + sizeOf p := by
  obtain ⟨a, b, c, d, e⟩ := p
  simp only [ofParameters, List.flatMap_append, List.mem_append] at h
  grind

theorem sizeOf_ofComprehension (g : Comprehension) (m : Node) (h : m ∈ ofComprehension g) :
    sizeOf m < 1 + sizeOf g := by
  obtain ⟨target, iter, conditions, isAsync⟩ := g
  simp only [ofComprehension, List.mem_cons] at h
  grind

theorem sizeOf_child (n : Node) : ∀ m ∈ n.children, sizeOf m < sizeOf n := by
  intro m h
  cases n with
  | root r => exact sizeOf_ofRoot r m h
  | stmt s => exact sizeOf_ofStmt s m h
  | expr e => exact sizeOf_ofExpr e m h
  | pattern p => exact sizeOf_ofPattern p m h
  | parameters p => exact sizeOf_ofParameters p m h
  | comprehension g => exact sizeOf_ofComprehension g m h

end Node

structure Visit where
  depth : Nat
  node : Node

def Node.visits (depth : Nat) (n : Node) : List Visit :=
  ⟨depth, n⟩ :: n.children.attach.flatMap fun ⟨m, h⟩ =>
    have := n.sizeOf_child m h
    m.visits (depth + 1)
termination_by sizeOf n

def Root.visits (r : Root) : List Visit := (Node.root r).visits 0

def Root.names (r : Root) : List Name :=
  r.visits.filterMap fun
    | ⟨_, .expr (.name n)⟩ => some n
    | _ => none

end DuckTypes.Source
