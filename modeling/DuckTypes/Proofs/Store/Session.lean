import DuckTypes.Proofs.Store.Coherence
import DuckTypes.Proofs.Store.Origin

/-!
Sessions: a client builds composites by a script, which numbers them in the order of their creation,
and asks whatever it likes in between. What the script alone says about each composite is its
blueprint.
-/

namespace DuckTypes

def Value.rename (clients : List CompositeId) : Value → Value
  | plain type => plain type
  | composite id => composite (clients[id.index]?.getD id)

namespace CandidateSet

def rename (clients : List CompositeId) (set : CandidateSet) : CandidateSet :=
  .ofList (set.toList.map (Value.rename clients))

def Within (n : Nat) (set : CandidateSet) : Prop :=
  ∀ id, .composite id ∈ set.toList → id.index < n

end CandidateSet

namespace FacetRequest

def rename (clients : List CompositeId) : FacetRequest → FacetRequest
  | callable name parameters returns =>
    callable name (parameters.map (·.rename clients)) (returns.map (·.rename clients))
  | iterable yielded version => iterable (yielded.rename clients) version
  | iterator yielded version => iterator (yielded.rename clients) version

def sets : FacetRequest → List CandidateSet
  | callable _ parameters returns => parameters ++ returns.toList
  | iterable yielded _ | iterator yielded _ => [yielded]

end FacetRequest

namespace Construction

def rename (clients : List CompositeId) : Construction → Construction
  | create declaredBy => create declaredBy
  | add id request => add (clients[id.index]?.getD id) (request.rename clients)
  | recordReference id m l => recordReference (clients[id.index]?.getD id) m l
  | addReference id m start stop => addReference (clients[id.index]?.getD id) m start stop

def sets : Construction → List CandidateSet
  | add _ request => request.sets
  | _ => []

structure Within (n : Nat) (step : Construction) : Prop where
  target : ∀ id, step.target? = some id → id.index < n
  sets : ∀ set ∈ step.sets, set.Within n

end Construction

/-- The steps of a script, the latest first, the composites that the client got by them, and the
store after these steps and any questions in between. -/
inductive Session : List Construction → List CompositeId → Store → Prop where
  | empty : Session [] [] Store.empty
  | construct {steps : List Construction} {clients : List CompositeId} {s : Store}
      (h : Session steps clients s) (step : Construction) (hstep : step.Within clients.length) :
      Session (step :: steps) (clients ++ ((step.rename clients).act.answer s).toList)
        ((step.rename clients).act.after s)
  | query {steps : List Construction} {clients : List CompositeId} {s : Store}
      (h : Session steps clients s) (q : Query) (hq : q.target.index < s.size) :
      Session steps clients (q.act.after s)

structure Blueprint where
  declaredBy : Option SourceModule
  requests : List FacetRequest := []
  references : ReferenceLog := {}

def Blueprint.request (request : FacetRequest) (b : Blueprint) : Blueprint :=
  { b with requests := b.requests ++ [request] }

def Blueprint.reference (m : ModuleId) (l : Location) (b : Blueprint) : Blueprint :=
  { b with references := (b.references.record m l).2 }

def blueprints : List Construction → List Blueprint
  | [] => []
  | .create m :: earlier => blueprints earlier ++ [{ declaredBy := m }]
  | .add id request :: earlier => (blueprints earlier).modify id.index (·.request request)
  | .recordReference id m l :: earlier => (blueprints earlier).modify id.index (·.reference m l)
  | .addReference id m start stop :: earlier =>
    (blueprints earlier).modify id.index (·.reference m.id (m.locate start stop))

def FacetRequest.Realizes : FacetRequest → Facet.Kind → Prop
  | callable name parameters returns, kind =>
    kind = .callable (name.getD Facet.Kind.defaultName) parameters returns
  | iterable yielded _, kind => ∃ n, kind = .iterable yielded n
  | iterator yielded version, kind => kind = .iterator yielded version

structure Blueprint.Fits (clients : List CompositeId) (b : Blueprint) (c : Composite) : Prop where
  declaredBy : c.declaredBy = b.declaredBy
  references : c.references = b.references
  facets : List.Forall₂ (fun request f => (request.rename clients).Realizes f.kind) b.requests
    c.facets.toList
  within : ∀ request ∈ b.requests, ∀ set ∈ request.sets, set.Within clients.length

section Renaming

variable {clients : List CompositeId}

theorem Value.rename_append {v : Value} (h : ∀ id, v = .composite id → id.index < clients.length)
    (more : List CompositeId) : v.rename (clients ++ more) = v.rename clients := by
  cases v with
  | plain type => rfl
  | composite id => rw [rename, rename, List.getElem?_append_left (h id rfl)]

theorem CandidateSet.rename_append {set : CandidateSet} (h : set.Within clients.length)
    (more : List CompositeId) : set.rename (clients ++ more) = set.rename clients := by
  have hmap : set.toList.map (Value.rename (clients ++ more)) =
      set.toList.map (Value.rename clients) := by
    apply List.map_congr_left
    intro v hv
    apply Value.rename_append
    rintro id rfl
    exact h id hv
  rw [rename, hmap, rename]

theorem FacetRequest.rename_append {request : FacetRequest}
    (h : ∀ set ∈ request.sets, set.Within clients.length) (more : List CompositeId) :
    request.rename (clients ++ more) = request.rename clients := by
  cases request with
  | callable name parameters returns =>
    have hp : parameters.map (·.rename (clients ++ more)) = parameters.map (·.rename clients) := by
      apply List.map_congr_left
      intro set hset
      exact CandidateSet.rename_append (h set (List.mem_append_left _ hset)) more
    have hr : returns.map (·.rename (clients ++ more)) = returns.map (·.rename clients) := by
      cases returns with
      | none => rfl
      | some set =>
        have hset : set ∈ (callable name parameters (some set)).sets :=
          List.mem_append_right _ (List.mem_singleton_self set)
        exact congrArg some (CandidateSet.rename_append (h set hset) more)
    rw [rename, hp, hr, rename]
  | iterable yielded version =>
    rw [rename, CandidateSet.rename_append (h yielded (List.mem_singleton_self _)) more, rename]
  | iterator yielded version =>
    rw [rename, CandidateSet.rename_append (h yielded (List.mem_singleton_self _)) more, rename]

theorem Blueprint.Fits.append {b : Blueprint} {c : Composite} (h : b.Fits clients c)
    (more : List CompositeId) : b.Fits (clients ++ more) c := by
  constructor
  · exact h.declaredBy
  · exact h.references
  · have hboth : List.Forall₂ (fun request f => request ∈ b.requests ∧
        (request.rename clients).Realizes f.kind) b.requests c.facets.toList :=
      (List.forall₂_and_left _ _).mpr ⟨fun _ hr => hr, h.facets⟩
    refine hboth.imp ?_
    rintro request f ⟨hmem, hrealize⟩
    rwa [FacetRequest.rename_append (h.within request hmem)]
  · intro request hmem set hset id hid
    rw [List.length_append]
    exact Nat.lt_add_right _ (h.within request hmem set hset id hid)

end Renaming

end DuckTypes
