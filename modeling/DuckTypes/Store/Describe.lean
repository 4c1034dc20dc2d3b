import DuckTypes.Description
import DuckTypes.Store
import DuckTypes.Text.Inspect

namespace DuckTypes

structure ParameterInfo where
  name : String
  documentation : String
  typeText : String
  deriving DecidableEq, Repr

structure Overload where
  name : String
  parameters : List ParameterInfo
  returnType : String
  deriving DecidableEq, Repr

namespace Store

def shortDescription (s : Store) : Value → String
  | .plain type => type.name
  | .composite id => ((s.get? id).map (·.shortDescription)).getD unknownText

def renderSet (s : Store) (set : CandidateSet) : String :=
  if set.isEmpty then unknownText
  else " | ".intercalate (set.toList.map s.shortDescription)

def parameterInfo (s : Store) (slot : Nat) (set : CandidateSet) : ParameterInfo where
  name := "$" ++ slot.repr
  documentation := "Parameter " ++ slot.repr
  typeText := s.renderSet set

def facetOverloads (s : Store) (f : Facet) : List Overload :=
  match f.kind with
  | .callable name parameters returns =>
    [{ name
       parameters := parameters.mapIdx s.parameterInfo
       returnType := (returns.map s.renderSet).getD unknownText }]
  | _ => []

def overloads (s : Store) (c : Composite) : List Overload :=
  c.facets.toList.flatMap s.facetOverloads

def describeFacet (s : Store) (f : Facet) : Description :=
  match f.kind with
  | .callable name _ _ => .name name ++ .misc "()"
  | .iterable yielded _ | .iterator yielded _ =>
    .name f.name ++ .sortedList (yielded.toList.map s.shortDescription)

def describe (s : Store) (c : Composite) : Description :=
  (if c.facets.isEmpty then .name unknownText
    else .separated (c.facets.toList.map s.describeFacet)) ++ .endOfDeclaration

theorem describe_congr {s t : Store} {c d : Composite}
    (h : c.facets.toList.map s.describeFacet = d.facets.toList.map t.describeFacet) :
    s.describe c = t.describe d := by
  have hempty : c.facets.isEmpty = d.facets.isEmpty := by
    have hlength := congrArg List.length h
    simp only [List.length_map, Array.length_toList] at hlength
    simp [Array.isEmpty, hlength]
  rw [describe, hempty, h, describe]

end Store

def CompositeId.text (id : CompositeId) : String := "#" ++ id.index.repr

def CompositeId.inspect (id : CompositeId) : String :=
  "CompositeId(" ++ id.index.repr ++ ")"

def Value.inspect : Value → String
  | plain type => "Type(" ++ type.label ++ ")"
  | composite id => "Composite(" ++ id.inspect ++ ")"

def inspectRecord (name : String) (fields : List (String × String)) : String :=
  name ++ " \x7b " ++ ", ".intercalate (fields.map fun (field, value) => field ++ ": " ++ value) ++
    " \x7d"

def CandidateSet.inspect (s : CandidateSet) : String :=
  "\x7b" ++ ", ".intercalate (s.toList.map Value.inspect) ++ "\x7d"

def Composite.inspect (c : Composite) : String :=
  inspectRecord "CompositeType"
    [("id", c.id.inspect), ("name", Text.inspect c.name), ("version", c.version.repr)]

def Metrics.inspect (m : Metrics) : String :=
  inspectRecord "MetricsSnapshot"
    [("composites_created", m.compositesCreated.repr),
      ("synthetic_methods", m.syntheticMethods.repr),
      ("member_cache_hits", m.memberCacheHits.repr),
      ("member_recomputes", m.memberRecomputes.repr)]

def Store.inspect (s : Store) : String :=
  inspectRecord "ProtocolStore" [("composites", s.size.repr), ("metrics", s.metrics.inspect)]

end DuckTypes
