import DuckTypes.Text.Basic
import DuckTypes.Toml.Quoted

namespace DuckTypes

namespace Toml

/-- How a table came to be, which decides whether it may be added to. -/
inductive Origin where
  | header
  | implied
  | dotted
  | inline
  deriving DecidableEq, Repr

end Toml

inductive Toml where
  | string (text : String)
  | bool (value : Bool)
  | number (spelling : String)
  | moment (spelling : String)
  | array (items : List Toml)
  | table (origin : Toml.Origin) (entries : List (String × Toml))
  | tables (items : List (List (String × Toml)))
  deriving Inhabited

namespace Toml

abbrev Entries := List (String × Toml)

def isDigits (isDigit : Char → Bool) (cs : List Char) : Bool :=
  (Text.splitOn '_' cs).all fun run => !run.isEmpty && run.all isDigit

def withoutUnderscores (cs : List Char) : List Char := cs.filter (· ≠ '_')

def splitSign : List Char → Bool × List Char
  | '+' :: rest => (false, rest)
  | '-' :: rest => (true, rest)
  | cs => (false, cs)

def isWhole (cs : List Char) : Bool :=
  isDigits Char.isDigit cs && (cs.length = 1 || cs.head? ≠ some '0')

def valueIn (base : Nat) (cs : List Char) : Nat :=
  cs.foldl (fun n c => base * n + (Text.hexValue? c).getD 0) 0

def isBasedDigit (base : Nat) (c : Char) : Bool := (Text.hexValue? c).any (· < base)

def isInteger (cs : List Char) : Bool :=
  let based := fun base digits =>
    isDigits (isBasedDigit base) digits && valueIn base (withoutUnderscores digits) < Nat.pow 2 63
  match cs with
  | '0' :: 'x' :: digits => based 16 digits
  | '0' :: 'o' :: digits => based 8 digits
  | '0' :: 'b' :: digits => based 2 digits
  | _ =>
    let (negative, digits) := splitSign cs
    isWhole digits &&
      Text.decimalValue (withoutUnderscores digits) < Nat.pow 2 63 + (if negative then 1 else 0)

def isTooLarge (digits : Nat) (exponent : Int) : Bool :=
  let limit := Nat.pow 2 1024 - Nat.pow 2 970
  if digits = 0 then false
  else if exponent ≥ 400 then true
  else if exponent ≥ 0 then digits * Nat.pow 10 exponent.toNat ≥ limit
  else
    let places := (-exponent).toNat
    digits.log2 ≥ 1023 && digits ≥ limit * Nat.pow 10 (min places digits.log2)

def isFloat (cs : List Char) : Bool :=
  let (negative, body) := splitSign cs
  if body = "inf".toList || body = "nan".toList then true
  else
    let isMark := fun c => c = 'e' || c = 'E'
    let mantissa := body.takeWhile fun c => !isMark c
    let whole := mantissa.takeWhile (· ≠ '.')
    let fraction := mantissa.dropWhile (· ≠ '.')
    let exponent := body.dropWhile fun c => !isMark c
    let (below, power) := splitSign exponent.tail
    let decimals := withoutUnderscores fraction.tail
    let value := Text.decimalValue (withoutUnderscores whole ++ decimals)
    let size : Int := Text.decimalValue (withoutUnderscores power)
    isWhole whole && (!fraction.isEmpty || !exponent.isEmpty) &&
      (fraction.isEmpty || isDigits Char.isDigit fraction.tail) &&
      (exponent.isEmpty || isDigits Char.isDigit power) &&
      (negative || !isTooLarge value ((if below then -size else size) - decimals.length))

def twoDigits (low high : Nat) (a b : Char) : Option Nat :=
  if a.isDigit ∧ b.isDigit then
    (some (Text.decimalValue [a, b])).filter fun n => low ≤ n ∧ n ≤ high
  else none

def daysIn (year month : Nat) : Nat :=
  if month = 2 then
    if year % 4 = 0 ∧ (year % 100 ≠ 0 ∨ year % 400 = 0) then 29 else 28
  else if month = 4 ∨ month = 6 ∨ month = 9 ∨ month = 11 then 30
  else 31

def readDate : List Char → Option (List Char)
  | a :: b :: c :: d :: '-' :: m :: n :: '-' :: x :: y :: rest => do
    let year ← Text.decimal? [a, b, c, d]
    let month ← twoDigits 1 12 m n
    let _ ← twoDigits 1 (daysIn year month) x y
    return rest
  | _ => none

def readTime : List Char → Option (List Char)
  | a :: b :: ':' :: c :: d :: ':' :: e :: f :: rest => do
    let _ ← twoDigits 0 23 a b
    let _ ← twoDigits 0 59 c d
    let _ ← twoDigits 0 60 e f
    match rest with
    | '.' :: digits =>
      if digits.head?.any Char.isDigit then return digits.dropWhile Char.isDigit else none
    | _ => return rest
  | _ => none

def isOffset : List Char → Bool
  | [] => true
  | ['Z'] | ['z'] => true
  | [sign, a, b, ':', c, d] =>
    (sign = '+' || sign = '-') && (twoDigits 0 23 a b).isSome && (twoDigits 0 59 c d).isSome
  | _ => false

def isTimeWithOffset (cs : List Char) : Bool := (readTime cs).any isOffset

def isMoment (cs : List Char) : Bool :=
  match readDate cs with
  | some [] => true
  | some (t :: time) => (t = 'T' || t = 't') && isTimeWithOffset time
  | none => readTime cs = some []

def isScalarChar (c : Char) : Bool :=
  c.isAlphanum || c = '+' || c = '-' || c = '_' || c = '.' || c = ':'

def readScalar (cs : List Char) : Option (Toml × List Char) :=
  let word := cs.takeWhile isScalarChar
  let rest := cs.dropWhile isScalarChar
  if word = "true".toList then some (.bool true, rest)
  else if word = "false".toList then some (.bool false, rest)
  else if readDate word = some [] ∧ rest.head? = some ' ' ∧ rest.tail.head?.any Char.isDigit then
    let time := rest.tail.takeWhile isScalarChar
    if isTimeWithOffset time then
      some (.moment (String.ofList (word ++ ' ' :: time)), rest.tail.dropWhile isScalarChar)
    else none
  else if isMoment word then some (.moment (String.ofList word), rest)
  else if isInteger word || isFloat word then some (.number (String.ofList word), rest)
  else none

end Toml

end DuckTypes
