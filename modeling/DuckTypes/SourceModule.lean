import DuckTypes.Digest.Blake3
import DuckTypes.LanguageVersion
import DuckTypes.Location

namespace DuckTypes

structure ModuleId where
  number : UInt64
  deriving DecidableEq, Hashable, Repr, Inhabited

namespace ModuleId

def ofPath (path : String) : ModuleId :=
  let digest := Digest.Blake3.digest path.toUTF8.data
  ⟨(digest.get 0).toUInt64 ||| ((digest.get 1).toUInt64 <<< 32)⟩

def text (id : ModuleId) : String :=
  let digits := Nat.toDigits 16 id.number.toNat
  String.ofList (List.replicate (16 - digits.length) '0' ++ digits)

end ModuleId

structure SourceModule where
  name : String
  path : String
  version : LanguageVersion
  lines : LineIndex := .unknown
  id : ModuleId := ModuleId.ofPath path
  id_eq : id = ModuleId.ofPath path := by rfl

namespace SourceModule

def withSource (m : SourceModule) (source : String) : SourceModule :=
  { m with lines := LineIndex.ofSource source }

def locate (m : SourceModule) (start stop : Nat) : Location :=
  ⟨m.path, .between (m.lines.position start) (m.lines.position stop)⟩

end SourceModule

end DuckTypes
