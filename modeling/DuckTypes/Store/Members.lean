import DuckTypes.Store

/-!
The member tables of facets. A facet's table is built when it is first asked for, from methods
that are made for it, and is kept from then on.
-/

namespace DuckTypes.Store

def makeMethod (f : Facet) (name : String) (parameters : List CandidateSet)
    (returns : CandidateSet) : Action CandidateSet := do
  let method ← create f.declaredBy
  addCallable method (some name) parameters (some returns)
  modify fun s =>
    { s with metrics := { s.metrics with syntheticMethods := s.metrics.syntheticMethods + 1 } }
  return .of (.composite method)

/-- Builds the table of a facet. A callable is its own `__call__`; an iterable hands out its
iterator; an iterator advances to what it yields, and is its own iterator. -/
def buildTable (f : Facet) : Action MemberTable :=
  match f.kind with
  | .callable _ _ _ =>
    return (∅ : MemberTable).insert "__call__" (.of (.composite f.owner))
  | .iterable _ iterator => do
    let iter ← makeMethod f "__iter__" [] (.of (.composite iterator))
    return (∅ : MemberTable).insert "__iter__" iter
  | .iterator yielded version => do
    let advance ← makeMethod f version.advanceName [] yielded
    let iter ← makeMethod f "__iter__" [] (.of (.composite f.owner))
    return ((∅ : MemberTable).insert version.advanceName advance).insert "__iter__" iter

def facet? (s : Store) (id : CompositeId) (slot : Nat) : Option Facet :=
  (s.get? id).bind (·.facets[slot]?)

def facetCount (s : Store) (id : CompositeId) : Nat :=
  match s.get? id with
  | some c => c.facets.size
  | none => 0

def memberTable (id : CompositeId) (slot : Nat) : Action MemberTable := do
  match (← get).facet? id slot with
  | none => return ∅
  | some f =>
    match f.table with
    | some table => return table
    | none =>
      let table ← buildTable f
      change id fun c => c.keepTable slot table
      return table

def member (id : CompositeId) (slot : Nat) (name : String) : Action CandidateSet := do
  return (← memberTable id slot).candidates name

def forFacets {α : Type} (id : CompositeId) (act : Nat → Action α) : Action (List α) := do
  (List.range ((← get).facetCount id)).mapM act

def allMembers (id : CompositeId) : Action MemberTable := do
  let version := (((← get).get? id).map (·.version)).getD 0
  let (table, computed) ← VersionedCache.getOrCompute
    (do return (((← get).get? id).map (·.members)).getD {})
    (fun f => change id fun c => { c with members := f c.members })
    version
    (do return MemberTable.mergeAll (← forFacets id (memberTable id)))
  modify fun s =>
    if computed then
      { s with metrics := { s.metrics with memberRecomputes := s.metrics.memberRecomputes + 1 } }
    else
      { s with metrics := { s.metrics with memberCacheHits := s.metrics.memberCacheHits + 1 } }
  return table

end DuckTypes.Store
