import DuckTypes.Composite

namespace DuckTypes

structure Metrics where
  compositesCreated : Nat := 0
  syntheticMethods : Nat := 0
  memberCacheHits : Nat := 0
  memberRecomputes : Nat := 0
  deriving DecidableEq, Repr, Inhabited

structure Store where
  composites : Array Composite := #[]
  metrics : Metrics := {}

abbrev Action := StateM Store

namespace Store

def empty : Store := {}

instance : Inhabited Store := ⟨empty⟩

def get? (s : Store) (id : CompositeId) : Option Composite := s.composites[id.index]?

def size (s : Store) : Nat := s.composites.size

def resolve (s : Store) (set : CandidateSet) : List CompositeId :=
  set.composites.filter fun id => (s.get? id).isSome

def update (s : Store) (id : CompositeId) (f : Composite → Composite) : Store :=
  { s with composites := s.composites.modify id.index f }

def register (s : Store) (declaredBy : Option SourceModule) : Store :=
  { s with
    composites := s.composites.push { id := ⟨s.composites.size⟩, declaredBy }
    metrics := { s.metrics with compositesCreated := s.metrics.compositesCreated + 1 } }

def create (declaredBy : Option SourceModule) : Action CompositeId :=
  modifyGet fun s => (⟨s.composites.size⟩, s.register declaredBy)

def change (id : CompositeId) (f : Composite → Composite) : Action Unit :=
  modify fun s => s.update id f

def addCallable (id : CompositeId) (name : Option String) (parameters : List CandidateSet)
    (returns : Option CandidateSet) : Action Unit :=
  change id fun c => c.addFacet (.callable (name.getD Facet.Kind.defaultName) parameters returns)

def addIterator (id : CompositeId) (yielded : CandidateSet) (version : LanguageVersion) :
    Action Unit :=
  change id fun c => c.addFacet (.iterator yielded version)

def declaringModule (id : CompositeId) : Action (Option SourceModule) := do
  return (← get).get? id |>.bind (·.declaredBy)

/-- Adds a facet that can be iterated. Its iterator is a composite of the same module, made
first. -/
def addIterable (id : CompositeId) (yielded : CandidateSet) (version : LanguageVersion) :
    Action Unit := do
  let iterator ← create (← declaringModule id)
  addIterator iterator yielded version
  change id fun c => c.addFacet (.iterable yielded iterator)

def recordReference (id : CompositeId) (m : ModuleId) (l : Location) : Action Bool := do
  let grew := ((← get).get? id).any fun c => (c.references.record m l).1
  change id fun c => { c with references := (c.references.record m l).2 }
  return grew

def addReference (id : CompositeId) (m : SourceModule) (start stop : Nat) : Action Unit := do
  let _ ← recordReference id m.id (m.locate start stop)

def mutate (id : CompositeId) (m : Mutation) : Action Unit :=
  change id fun c => c.mutate m

/-- Keeps a composite, or merges it into the first kept one that it is union-equal to. -/
def keepSurvivor (s : Store) (kept : List CompositeId) (id : CompositeId) (c : Composite) :
    List CompositeId :=
  match kept.findIdx? fun k => (s.get? k).any (·.unionEquals c) with
  | some slot =>
    match kept[slot]?.bind s.get? with
    | some existing => kept.set slot (existing.unionMerge c).id
    | none => kept
  | none => kept ++ [id]

def collapseStep (s : Store) :
    CandidateSet × List CompositeId → Value → CandidateSet × List CompositeId
  | (result, kept), .plain type => (result.insert (.plain type), kept)
  | (result, kept), .composite id =>
    match s.get? id with
    | none => (result.insert (.composite id), kept)
    | some c => (result, s.keepSurvivor kept id c)

def collapseComposites (s : Store) (set : CandidateSet) : CandidateSet :=
  let (result, kept) := set.toList.foldl s.collapseStep (.empty, [])
  result.extend (kept.map .composite)

end Store

end DuckTypes
