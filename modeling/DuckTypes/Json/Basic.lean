namespace DuckTypes

namespace Json

inductive Piece where
  | char (c : Char)
  | unit (n : Nat)
  deriving DecidableEq, Repr

end Json

inductive Json where
  | null
  | bool (value : Bool)
  | number (text : List Char)
  | string (pieces : List Json.Piece)
  | array (items : List Json)
  | object (members : List (List Json.Piece × Json))
  deriving Inhabited

namespace Json

namespace Piece

def isHighSurrogate (n : Nat) : Bool := 0xD800 ≤ n && n < 0xDC00

def isLowSurrogate (n : Nat) : Bool := 0xDC00 ≤ n && n < 0xE000

def paired (high low : Nat) : Char :=
  Char.ofNat (0x10000 + (high - 0xD800) * 0x400 + (low - 0xDC00))

/-- The characters of a string. A surrogate counts only as half of a pair. -/
def join : List Piece → Option (List Char)
  | [] => some []
  | .char c :: rest => (join rest).map (c :: ·)
  | .unit n :: rest =>
    if isLowSurrogate n then none
    else if isHighSurrogate n then
      match rest with
      | .unit low :: rest =>
        if isLowSurrogate low then (join rest).map (paired n low :: ·) else none
      | _ => none
    else (join rest).map (Char.ofNat n :: ·)

end Piece

def pieces (s : String) : List Piece := s.toList.map .char

def text (s : String) : Json := .string (pieces s)

def text? : Json → Option String
  | .string ps => (Piece.join ps).map String.ofList
  | _ => none

def nat (n : Nat) : Json := .number n.repr.toList

def record (members : List (String × Json)) : Json :=
  .object (members.map fun (name, value) => (pieces name, value))

end Json

end DuckTypes
