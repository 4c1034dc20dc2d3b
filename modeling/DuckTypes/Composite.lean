import DuckTypes.Facet
import DuckTypes.ReferenceLog
import DuckTypes.VersionedCache

namespace DuckTypes

/-- The merged answers of a composite are memoized against its version, the number of facets
that were added so far. -/
structure Composite where
  id : CompositeId
  declaredBy : Option SourceModule
  facets : Array Facet := #[]
  version : Nat := 0
  members : VersionedCache MemberTable := {}
  instanceType : VersionedCache CandidateSet := {}
  tag : VersionedCache TypeTag := {}
  references : ReferenceLog := {}

/-- What known tags come to, given what the tags before them agree on. The first one that
contradicts it ends the search. -/
def agree {α : Type} [DecidableEq α] [Inhabited α] (agreed : Option α) : List α → α
  | [] => agreed.getD default
  | tag :: tags =>
    match agreed with
    | none => agree (some tag) tags
    | some existing => if existing ≠ tag then default else agree (some existing) tags

def reconcile {α : Type} [DecidableEq α] [Inhabited α] (tags : List α) : α :=
  agree none (tags.filter (· ≠ default))

def unknownText : String := "<unknown>"

namespace Composite

def name (c : Composite) : String := ", ".intercalate (c.facets.toList.map Facet.name)

def shortDescription (c : Composite) : String :=
  if c.name = "" then unknownText else c.name

def addFacet (c : Composite) (kind : Facet.Kind) : Composite :=
  { c with
    facets := c.facets.push { owner := c.id, declaredBy := c.declaredBy, kind }
    version := c.version + 1 }

def callResult (c : Composite) : CandidateSet :=
  .unionAll (c.facets.toList.map Facet.callResult)

def mutate (c : Composite) (m : Mutation) : Composite :=
  { c with facets := c.facets.map (·.mutate m) }

def keepTable (c : Composite) (slot : Nat) (table : MemberTable) : Composite :=
  { c with facets := c.facets.modify slot fun f => { f with table := some table } }

def locations (c : Composite) : List Location :=
  match c.declaredBy with
  | some m => c.references.locationsIn m.id
  | none => []

def unionEquals (_ _ : Composite) : Bool := true

def unionHash : UInt64 := 0x636F6D706F736974

def unionMerge (c _ : Composite) : Composite := c

end Composite

end DuckTypes
