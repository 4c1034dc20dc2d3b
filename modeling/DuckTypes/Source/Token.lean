import DuckTypes.Source.Tree
import DuckTypes.Text.Basic
import DuckTypes.Source.Quoted

namespace DuckTypes.Source

def digitsLength (isDigit : Char → Bool) : List Char → Nat
  | [] => 0
  | c :: rest =>
    if isDigit c || (c = '_' && rest.head?.any isDigit) then digitsLength isDigit rest + 1 else 0

def decimalLength : List Char → Nat := digitsLength Char.isDigit

def isDigitOf (base : Nat) (c : Char) : Bool := (Text.hexValue? c).any (· < base)

def properLength (cs : List Char) : Option Nat :=
  if cs.head?.any Char.isDigit then some (decimalLength cs) else none

def fractionLength : List Char → Option Nat
  | '.' :: '_' :: _ => none
  | '.' :: digits => some (decimalLength digits + 1)
  | _ => some 0

def exponentLength (cs : List Char) : Option Nat :=
  let isLetter := cs.head? = some 'e' || cs.head? = some 'E'
  let isSigned := cs.tail.head? = some '+' || cs.tail.head? = some '-'
  if !isLetter then some 0
  else if isSigned then (properLength (cs.drop 2)).map (· + 2)
  else (properLength cs.tail).map (· + 1)

def isImaginary (cs : List Char) : Bool := cs.head? = some 'j' || cs.head? = some 'J'

/-- Whether a number goes on after its whole part with a fraction or an exponent. An `e` without
digits behind it is not an exponent. -/
def isFractional (cs : List Char) : Bool :=
  cs.head? = some '.' || (exponentLength cs).any (0 < ·)

def decimalNumeral (cs : List Char) : Option (ConstantKind × Nat) := do
  let whole := decimalLength cs
  let length ←
    if isFractional (cs.drop whole) then
      let fraction ← fractionLength (cs.drop whole)
      let exponent ← exponentLength (cs.drop (whole + fraction))
      pure (whole + fraction + exponent)
    else pure whole
  if isImaginary (cs.drop length) then return (.complex, length + 1)
  else if isFractional (cs.drop whole) then return (.float, length)
  else if cs.head? = some '0' && (cs.take whole).any fun c => c ≠ '0' && c ≠ '_' then none
  else return (.int, length)

def basedNumeral (base : Nat) (digits : List Char) : Option (ConstantKind × Nat) :=
  match digitsLength (isDigitOf base) digits with
  | 0 => none
  | n => some (.int, n + 2)

def numeral : List Char → Option (ConstantKind × Nat)
  | '0' :: 'x' :: digits | '0' :: 'X' :: digits => basedNumeral 16 digits
  | '0' :: 'o' :: digits | '0' :: 'O' :: digits => basedNumeral 8 digits
  | '0' :: 'b' :: digits | '0' :: 'B' :: digits => basedNumeral 2 digits
  | cs => decimalNumeral cs

inductive TokenKind where
  | name (id : String)
  | mark (spelling : String)
  | number (kind : ConstantKind)
  | quoted (text : Quoted)
  | newline
  | indent
  | dedent
  deriving DecidableEq, Repr

structure Token where
  kind : TokenKind
  range : Range
  deriving DecidableEq, Repr

def keywords : List String :=
  ["False", "None", "True", "and", "as", "assert", "async", "await", "break", "class", "continue",
    "def", "del", "elif", "else", "except", "finally", "for", "from", "global", "if", "import",
    "in", "is", "lambda", "nonlocal", "not", "or", "pass", "raise", "return", "try", "while",
    "with", "yield"]

def punctuation : List String :=
  ["**=", "//=", "<<=", ">>=", "...",
    "==", "!=", "<=", ">=", "<<", ">>", "**", "//", "+=", "-=", "*=", "/=", "%=", "&=", "|=",
    "^=", "@=", "->", ":=",
    "(", ")", "[", "]", "\x7b", "\x7d", ":", ",", ";", ".", "=", "+", "-", "*", "/", "%", "&", "|",
    "^", "~", "@", "<", ">"]

def isOpening (spelling : String) : Bool := spelling ∈ ["(", "[", "\x7b"]

def isClosing (spelling : String) : Bool := spelling ∈ [")", "]", "\x7d"]

def TokenKind.ofWord (word : String) : TokenKind :=
  if word ∈ keywords then .mark word else .name word

end DuckTypes.Source
