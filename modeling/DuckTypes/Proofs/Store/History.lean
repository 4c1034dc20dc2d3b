import DuckTypes.Proofs.Store.Effect

/-!
Histories: what clients do with a store, one operation after another, starting from an empty store.
Each operation comes down to a few elementary effects, and so an invariant of the effects holds
after every history.
-/

namespace DuckTypes

inductive FacetRequest where
  | callable (name : Option String) (parameters : List CandidateSet)
      (returns : Option CandidateSet)
  | iterable (yielded : CandidateSet) (version : LanguageVersion)
  | iterator (yielded : CandidateSet) (version : LanguageVersion)

def FacetRequest.act (id : CompositeId) : FacetRequest → Action Unit
  | callable name parameters returns => Store.addCallable id name parameters returns
  | iterable yielded version => Store.addIterable id yielded version
  | iterator yielded version => Store.addIterator id yielded version

inductive Construction where
  | create (declaredBy : Option SourceModule)
  | add (id : CompositeId) (request : FacetRequest)
  | recordReference (id : CompositeId) (m : ModuleId) (l : Location)
  | addReference (id : CompositeId) (m : SourceModule) (start stop : Nat)

namespace Construction

def act : Construction → Action (Option CompositeId)
  | create declaredBy => do return some (← Store.create declaredBy)
  | add id request => do
    request.act id
    return none
  | recordReference id m l => do
    let _ ← Store.recordReference id m l
    return none
  | addReference id m start stop => do
    Store.addReference id m start stop
    return none

def target? : Construction → Option CompositeId
  | create _ => none
  | add id _ | recordReference id _ _ | addReference id _ _ _ => some id

end Construction

inductive Query where
  | ask (id : CompositeId) (q : Question)
  | allMembers (id : CompositeId)
  | typeTag (id : CompositeId)
  | askFacet (id : CompositeId) (slot : Nat) (q : Question)
  | memberTable (id : CompositeId) (slot : Nat)

namespace Query

def act : Query → Action Unit
  | ask id q => do let _ ← Store.ask id q
  | allMembers id => do let _ ← Store.allMembers id
  | typeTag id => do let _ ← Store.typeTag id
  | askFacet id slot q => do let _ ← Store.askFacet id slot q
  | memberTable id slot => do let _ ← Store.memberTable id slot

def target : Query → CompositeId
  | ask id _ | allMembers id | typeTag id | askFacet id _ _ | memberTable id _ => id

end Query

inductive Operation where
  | construct (c : Construction)
  | query (q : Query)
  | mutate (id : CompositeId) (m : Mutation)

namespace Operation

def act : Operation → Action Unit
  | construct c => do let _ ← c.act
  | query q => q.act
  | mutate id m => Store.mutate id m

def target? : Operation → Option CompositeId
  | construct c => c.target?
  | query q => some q.target
  | mutate id _ => some id

def Applicable (op : Operation) (s : Store) : Prop := ∀ id, op.target? = some id → id.index < s.size

end Operation

/-- The operations that led from an empty store to the present one, the latest first. -/
inductive History : List Operation → Store → Prop where
  | empty : History [] Store.empty
  | step {earlier : List Operation} {s : Store} (h : History earlier s) (op : Operation)
      (hop : op.Applicable s) : History (op :: earlier) (op.act.after s)

theorem Query.queries (q : Query) {s : Store} (h : q.target.index < s.size) :
    Store.Queries s (q.act.after s) := by
  cases q with
  | ask id q => exact Store.ask_queries h q
  | allMembers id => exact Store.allMembers_queries h
  | typeTag id => exact Store.typeTag_queries h
  | askFacet id slot q => exact (Store.askFacet_builds id slot q s).queries
  | memberTable id slot => exact (Store.memberTable_spec id slot s).1.queries

theorem Store.addIterable_after {s : Store} {id : CompositeId} {c : Composite}
    (hc : s.get? id = some c) (y : CandidateSet) (v : LanguageVersion) :
    (addIterable id y v).after s =
      (s.spawn c.declaredBy (.iterator y v)).update id fun c =>
        c.addFacet (.iterable y ⟨s.size⟩) := by
  have hm : (declaringModule id).answer s = c.declaredBy := by
    change (s.get? id).bind (·.declaredBy) = c.declaredBy
    rw [hc]
    rfl
  rw [← hm]
  rfl

theorem FacetRequest.steps (request : FacetRequest) {s : Store} {id : CompositeId}
    (h : id.index < s.size) : Store.Steps s ((request.act id).after s) := by
  obtain ⟨c, hc⟩ := Store.exists_get? h
  cases request with
  | callable name parameters returns => exact .single (.facet hc _ (by intro y n; nofun))
  | iterable yielded version =>
    have hafter := Store.addIterable_after hc yielded version
    exact hafter ▸ .single (.iterable hc yielded version)
  | iterator yielded version => exact .single (.facet hc _ (by intro y n; nofun))

theorem Store.update_id (s : Store) (id : CompositeId) : (s.update id fun c => c) = s := by
  have h : s.composites.modify id.index (fun c => c) = s.composites := by
    apply Array.ext_getElem?
    intro i
    rw [Array.getElem?_modify]
    split_ifs
    · rw [Option.map_id']
    · rfl
  rw [update, h]

theorem Store.mutate_after (s : Store) (id : CompositeId) (m : Mutation) :
    (mutate id m).after s = s := by
  change s.update id (fun c => c.mutate m) = s
  have h : s.update id (fun c => c.mutate m) = s.update id fun c => c :=
    update_congr fun c _ => c.mutate_eq m
  rw [h, s.update_id]

theorem Operation.cases (op : Operation) {s : Store} (h : op.Applicable s) :
    (∃ m, op = .construct (.create m) ∧ op.act.after s = s.register m) ∨
      (∀ m, op ≠ .construct (.create m)) ∧ Store.Steps s (op.act.after s) := by
  cases op with
  | construct step =>
    cases step with
    | create m => exact .inl ⟨m, rfl, rfl⟩
    | add id request => exact .inr ⟨fun m h => (by cases h), request.steps (h id rfl)⟩
    | recordReference id m l => exact .inr ⟨fun m h => (by cases h), .single (.record id m l)⟩
    | addReference id m start stop =>
      exact .inr ⟨fun m h => (by cases h), .single (.record id m.id (m.locate start stop))⟩
  | query q => exact .inr ⟨fun m h => (by cases h), (q.queries (h q.target rfl)).steps⟩
  | mutate id m =>
    have hafter : (mutate id m).act.after s = s := Store.mutate_after s id m
    rw [hafter]
    exact .inr ⟨fun m h => (by cases h), .refl⟩

theorem Operation.effects (op : Operation) {s : Store} (h : op.Applicable s) :
    Store.Effects s (op.act.after s) := by
  obtain ⟨m, -, hafter⟩ | ⟨-, hsteps⟩ := op.cases h
  · rw [hafter]
    exact .single (.create m)
  · exact hsteps.effects

theorem History.effects {ops : List Operation} {s : Store} (h : History ops s) :
    Store.Effects .empty s := by
  induction h with
  | empty => exact .refl
  | step h op hop ih => exact ih.trans (op.effects hop)

theorem History.invariant {I : Store → Prop} (empty : I .empty)
    (step : ∀ s t, Store.Effect s t → I s → I t) {ops : List Operation} {s : Store}
    (h : History ops s) : I s := by
  have heffects := h.effects
  clear h
  induction heffects with
  | refl => exact empty
  | tail _ heffect ih => exact step _ _ heffect ih

theorem History.forall_composites {P : CompositeId → Composite → Prop}
    (new : ∀ id c, Composite.New id c → P id c)
    (change : ∀ id c d, c.Change d → P id c → P id d) {ops : List Operation} {s : Store}
    (h : History ops s) : ∀ id c, s.get? id = some c → P id c := by
  refine h.invariant (I := fun s => ∀ id c, s.get? id = some c → P id c) ?_ ?_
  · intro id c hc
    cases hc
  · intro s t heffect hs
    exact heffect.forall_composites new change hs

end DuckTypes
