namespace DuckTypes

inductive PlainType where
  | none | bool | int | float | str | bytes
  deriving DecidableEq, Hashable, Repr, Inhabited

namespace PlainType

def name : PlainType → String
  | none => "None"
  | bool => "bool"
  | int => "int"
  | float => "float"
  | str => "str"
  | bytes => "bytes"

def label : PlainType → String
  | none => "None"
  | bool => "Bool"
  | int => "Int"
  | float => "Float"
  | str => "Str"
  | bytes => "Bytes"

end PlainType

/-- What a composite is known to be; `unknown` never conflicts with anything. -/
inductive TypeTag where
  | unknown | function
  deriving DecidableEq, Repr, Inhabited

def TypeTag.name : TypeTag → String
  | unknown => "Unknown"
  | function => "Function"

inductive BinaryOperator where
  | add | sub | mul | matMul | div | floorDiv | mod | pow
  | leftShift | rightShift | bitOr | bitXor | bitAnd
  deriving DecidableEq, Repr

inductive UnaryOperator where
  | invert | not | plus | minus
  deriving DecidableEq, Repr

structure CompositeId where
  index : Nat
  deriving DecidableEq, Hashable, Repr, Inhabited

inductive Value where
  | plain (type : PlainType)
  | composite (id : CompositeId)
  deriving DecidableEq, Hashable, Repr, Inhabited

def Value.composite? : Value → Option CompositeId
  | plain _ => none
  | composite id => some id

end DuckTypes
