import DuckTypes.Store.Members

/-!
Questions to composites and to single facets. A composite asks its facets in order and answers
with the union, so that no facet can hide what another one says.
-/

namespace DuckTypes

inductive Question where
  | member (name : String)
  | typeMember (name : String)
  | instanceType
  | iterator
  | enumerators
  | asyncIterator
  | asyncEnumerators
  | await
  | call (arguments : List CandidateSet) (keywords : List String)
  | binary (op : BinaryOperator) (right : CandidateSet)
  | reverseBinary (op : BinaryOperator) (left : CandidateSet)
  | unary (op : UnaryOperator)
  | index (index : CandidateSet)

namespace Store

def unionOfFacets (id : CompositeId) (ask : Nat → Action CandidateSet) : Action CandidateSet := do
  return .unionAll (← forFacets id ask)

def callMember (id : CompositeId) (slot : Nat) (name : String) : Action CandidateSet := do
  let methods ← member id slot name
  let s ← get
  return .unionAll ((s.resolve methods).map fun m => ((s.get? m).map (·.callResult)).getD ∅)

/-- What a facet hands out to be iterated: an iterable the iterator that was made for it, any
other facet whatever its `__iter__` returns. -/
def facetIterator (id : CompositeId) (slot : Nat) : Action CandidateSet := do
  match (← get).facet? id slot with
  | some { kind := .iterable _ iterator, .. } => return .of (.composite iterator)
  | _ => callMember id slot "__iter__"

def facetEnumerators (enumerators : CompositeId → Action CandidateSet) (id : CompositeId)
    (slot : Nat) : Action CandidateSet := do
  match (← get).facet? id slot with
  | some { kind := .iterator yielded _, .. } => return yielded
  | _ =>
    let iterators ← facetIterator id slot
    return .unionAll (← ((← get).resolve iterators).mapM enumerators)

def enumeratorsWithin : Nat → CompositeId → Action CandidateSet
  | 0, _ => return ∅
  | depth + 1, id => unionOfFacets id (facetEnumerators (enumeratorsWithin depth) id)

/-- What iterating over a composite yields. An iterable's iterator is a later composite than the
iterable, so iterators are nested no deeper than there are composites. -/
def enumerators (id : CompositeId) : Action CandidateSet := do
  enumeratorsWithin (← get).size id

def askFacet (id : CompositeId) (slot : Nat) : Question → Action CandidateSet
  | .member name | .typeMember name => member id slot name
  | .instanceType => do return (((← get).facet? id slot).map (·.instanceType)).getD ∅
  | .iterator => facetIterator id slot
  | .enumerators => facetEnumerators enumerators id slot
  | .call _ _ => do return (((← get).facet? id slot).map (·.callResult)).getD ∅
  | .asyncIterator | .asyncEnumerators | .await => return ∅
  | .binary _ _ | .reverseBinary _ _ | .unary _ | .index _ => return ∅

def instanceType (id : CompositeId) : Action CandidateSet := do
  let version := (((← get).get? id).map (·.version)).getD 0
  let (set, _) ← VersionedCache.getOrCompute
    (do return (((← get).get? id).map (·.instanceType)).getD {})
    (fun f => change id fun c => { c with instanceType := f c.instanceType })
    version
    (unionOfFacets id fun slot => askFacet id slot .instanceType)
  return set

def ask (id : CompositeId) : Question → Action CandidateSet
  | .instanceType => instanceType id
  | .enumerators => enumerators id
  | q => unionOfFacets id fun slot => askFacet id slot q

def typeTag (id : CompositeId) : Action TypeTag := do
  let version := (((← get).get? id).map (·.version)).getD 0
  let (tag, _) ← VersionedCache.getOrCompute
    (do return (((← get).get? id).map (·.tag)).getD {})
    (fun f => change id fun c => { c with tag := f c.tag })
    version
    (do
      let facets := (((← get).get? id).map (·.facets.toList)).getD []
      return reconcile (facets.map Facet.tag))
  return tag

end Store

end DuckTypes
