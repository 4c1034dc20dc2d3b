import Std.Data.ExtHashSet
import Std.Data.ExtTreeMap
import DuckTypes.Store.Describe
import DuckTypes.Store.Query
import DuckTypes.Survey.Event

namespace DuckTypes.Survey

structure Findings where
  names : Std.ExtTreeMap String CompositeId := ∅
  seen : Std.ExtHashSet (String × Usage) := ∅

def compositeOf (m : SourceModule) (f : Findings) (name : String) :
    Action (CompositeId × Findings) := do
  match f.names[name]? with
  | some id => return (id, f)
  | none =>
    let id ← Store.create (some m)
    return (id, { f with names := f.names.insert name id })

def observe (m : SourceModule) (f : Findings) (name : String) (usage : Usage)
    (add : CompositeId → Action Unit) : Action Findings := do
  if f.seen.contains (name, usage) then return f
  else
    let (id, f) ← compositeOf m f name
    add id
    return { f with seen := f.seen.insert (name, usage) }

def record (m : SourceModule) (f : Findings) : Event → Action Findings
  | .called name parameters =>
    observe m f name .called fun id => Store.addCallable id (some name) parameters none
  | .iterated name => observe m f name .iterated fun id => Store.addIterable id ∅ m.version
  | .advanced name => observe m f name .advanced fun id => Store.addIterator id ∅ m.version
  | .loaded name range => do
    let (id, f) ← compositeOf m f name
    Store.addReference id m range.start range.stop
    return f

structure ModuleSurvey where
  module : SourceModule
  names : Std.ExtTreeMap String CompositeId

def surveyModule (m : SourceModule) (r : Source.Root) : Action ModuleSurvey := do
  let findings ← (events r).foldlM (record m) {}
  return ⟨m, findings.names⟩

structure NameReport where
  name : String
  rendered : String
  fragments : Description
  tag : TypeTag
  overloads : List Overload
  references : List Location
  deriving Repr

structure ModuleReport where
  module : String
  path : String
  names : List NameReport
  deriving Repr

def reportName (m : SourceModule) (name : String) (id : CompositeId) :
    Action (Option NameReport) := do
  let tag ← Store.typeTag id
  let s ← get
  return (s.get? id).map fun c =>
    let fragments := s.describe c
    { name, rendered := fragments.render, fragments, tag, overloads := s.overloads c
      references := c.references.locationsIn m.id }

def ModuleSurvey.report (survey : ModuleSurvey) : Action ModuleReport := do
  let names ← survey.names.toList.mapM fun (name, id) => reportName survey.module name id
  return ⟨survey.module.name, survey.module.path, names.reduceOption⟩

end DuckTypes.Survey
