import DuckTypes.Text.Basic

namespace DuckTypes

structure LanguageVersion where
  major : UInt8
  minor : UInt8
  deriving DecidableEq, Repr

namespace LanguageVersion

def latest : LanguageVersion := ⟨3, 12⟩

instance : Inhabited LanguageVersion := ⟨latest⟩

def isModern (v : LanguageVersion) : Bool := 3 ≤ v.major

def text (v : LanguageVersion) : String :=
  v.major.toNat.repr ++ "." ++ v.minor.toNat.repr

def compare (v w : LanguageVersion) : Ordering :=
  (Ord.compare v.major.toNat w.major.toNat).then (Ord.compare v.minor.toNat w.minor.toNat)

def part? (cs : List Char) : Option UInt8 :=
  (Text.boundedDecimal? 255 cs).map Nat.toUInt8

def ofParts? : List (List Char) → Option LanguageVersion
  | [] => none
  | [major] => do return ⟨← part? major, 0⟩
  | major :: minor :: _ => do return ⟨← part? major, ← part? minor⟩

structure Malformed where
  text : String
  deriving DecidableEq, Repr

def Malformed.message (e : Malformed) : String :=
  "Invalid Python version '" ++ e.text ++ "': expected MAJOR.MINOR"

def parse (text : String) : Except Malformed LanguageVersion :=
  match ofParts? (Text.splitOn '.' (Text.trim text.toList)) with
  | some v => .ok v
  | none => .error ⟨text⟩

end LanguageVersion

end DuckTypes
