import Std.Data.ExtHashSet
import DuckTypes.SourceModule

namespace DuckTypes

structure ModuleLog where
  order : Array Location := #[]
  seen : Std.ExtHashSet Location.Key := ∅

def ModuleLog.record (log : ModuleLog) (l : Location) : Bool × ModuleLog :=
  if log.seen.contains l.key then (false, log)
  else (true, ⟨log.order.push l, log.seen.insert l.key⟩)

structure ReferenceLog where
  logs : List (ModuleId × ModuleLog) := []

namespace ReferenceLog

def recordIn (m : ModuleId) (l : Location) : List (ModuleId × ModuleLog) →
    Bool × List (ModuleId × ModuleLog)
  | [] =>
    let (grew, log) := ModuleLog.record {} l
    (grew, [(m, log)])
  | (n, log) :: rest =>
    if n = m then
      let (grew, log) := log.record l
      (grew, (n, log) :: rest)
    else
      let (grew, rest) := recordIn m l rest
      (grew, (n, log) :: rest)

def record (r : ReferenceLog) (m : ModuleId) (l : Location) : Bool × ReferenceLog :=
  let (grew, logs) := recordIn m l r.logs
  (grew, ⟨logs⟩)

def locationsIn (r : ReferenceLog) (m : ModuleId) : List Location :=
  ((r.logs.lookup m).map fun log => log.order.toList).getD []

def all (r : ReferenceLog) : List Location :=
  r.logs.flatMap fun entry => entry.2.order.toList

def modules (r : ReferenceLog) : List ModuleId := r.logs.map (·.1)

def size (r : ReferenceLog) : Nat := r.logs.foldr (fun entry n => entry.2.order.size + n) 0

def isEmpty (r : ReferenceLog) : Bool := r.size = 0

end ReferenceLog

end DuckTypes
