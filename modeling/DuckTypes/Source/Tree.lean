namespace DuckTypes.Source

inductive Context where
  | load | store | del
  deriving DecidableEq, Repr, Inhabited

structure Range where
  start : Nat
  stop : Nat
  deriving DecidableEq, Repr, Inhabited

structure Name where
  id : String
  context : Context
  range : Range
  deriving DecidableEq, Repr, Inhabited

inductive ConstantKind where
  | none | bool | str | bytes | int | float | complex | tuple | ellipsis
  deriving DecidableEq, Repr, Inhabited

mutual

inductive Expr where
  | boolOp (values : List Expr)
  | namedExpr (target value : Expr)
  | binOp (left right : Expr)
  | unaryOp (operand : Expr)
  | lambda (parameters : Parameters) (body : Expr)
  | ifExp (test body orElse : Expr)
  | dict (keys : List (Option Expr)) (values : List Expr)
  | set (elements : List Expr)
  | listComp (element : Expr) (generators : List Comprehension)
  | setComp (element : Expr) (generators : List Comprehension)
  | dictComp (key value : Expr) (generators : List Comprehension)
  | generatorExp (element : Expr) (generators : List Comprehension)
  | await (value : Expr)
  | yield (value : Option Expr)
  | yieldFrom (value : Expr)
  | compare (left : Expr) (comparators : List Expr)
  | call (function : Expr) (arguments : List Expr) (keywords : List Keyword)
  | formattedValue (value : Expr) (format : Option Expr)
  | joinedStr (values : List Expr)
  | constant (kind : ConstantKind)
  | attr (value : Expr) (name : String)
  | subscript (value index : Expr)
  | starred (value : Expr)
  | name (name : Name)
  | list (elements : List Expr)
  | tuple (elements : List Expr)
  | slice (lower upper step : Option Expr)

structure Comprehension where
  target : Expr
  iter : Expr
  conditions : List Expr
  isAsync : Bool

structure Keyword where
  name : Option String
  value : Expr

structure Parameter where
  name : String
  annotation : Option Expr
  default : Option Expr

structure VariadicParameter where
  name : String
  annotation : Option Expr

structure Parameters where
  positionalOnly : List Parameter
  positional : List Parameter
  keywordOnly : List Parameter
  variadic : Option VariadicParameter
  variadicKeyword : Option VariadicParameter

end

instance : Inhabited Expr := ⟨.constant .none⟩

inductive Pattern where
  | matchValue (value : Expr)
  | matchSingleton
  | matchSequence (patterns : List Pattern)
  | matchMapping (keys : List Expr) (patterns : List Pattern)
  | matchClass (constructor : Expr) (patterns keywordPatterns : List Pattern)
  | matchStar
  | matchAs (pattern : Option Pattern)
  | matchOr (patterns : List Pattern)

instance : Inhabited Pattern := ⟨.matchSingleton⟩

inductive TypeParam where
  | typeVar (name : String) (bound : Option Expr)
  | paramSpec (name : String)
  | typeVarTuple (name : String)

structure WithItem where
  context : Expr
  target : Option Expr

inductive SimpleStmt where
  | importModule | importFrom | globalNames | nonlocalNames | pass | breakLoop | continueLoop
  deriving DecidableEq, Repr, Inhabited

mutual

inductive Stmt where
  | functionDef (isAsync : Bool) (name : String) (parameters : Parameters) (body : List Stmt)
      (decorators : List Expr) (returns : Option Expr) (typeParams : List TypeParam)
  | classDef (name : String) (bases : List Expr) (keywords : List Keyword) (body : List Stmt)
      (decorators : List Expr) (typeParams : List TypeParam)
  | returnValue (value : Option Expr)
  | delete (targets : List Expr)
  | assign (targets : List Expr) (value : Expr)
  | typeAlias (name : Expr) (typeParams : List TypeParam) (value : Expr)
  | augAssign (target value : Expr)
  | annAssign (target annotation : Expr) (value : Option Expr)
  | forLoop (isAsync : Bool) (target iter : Expr) (body orElse : List Stmt)
  | whileLoop (test : Expr) (body orElse : List Stmt)
  | ifElse (test : Expr) (body orElse : List Stmt)
  | withItems (isAsync : Bool) (items : List WithItem) (body : List Stmt)
  | matchCases (subject : Expr) (cases : List MatchCase)
  | raise (exception cause : Option Expr)
  | tryExcept (isGroup : Bool) (body : List Stmt) (handlers : List Handler)
      (orElse finalBody : List Stmt)
  | assert (test : Expr) (message : Option Expr)
  | expr (value : Expr)
  | simple (kind : SimpleStmt)

structure MatchCase where
  pattern : Pattern
  guard : Option Expr
  body : List Stmt

structure Handler where
  type : Option Expr
  body : List Stmt

end

instance : Inhabited Stmt := ⟨.simple .pass⟩

inductive Root where
  | module (body : List Stmt)
  | interactive (body : List Stmt)
  | expression (body : Expr)
  | functionType (arguments : List Expr) (returns : Expr)
  deriving Inhabited

end DuckTypes.Source
